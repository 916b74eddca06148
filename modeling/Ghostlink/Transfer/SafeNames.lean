import Ghostlink.Transfer.Storage

/-! What `sanitize_filename` returns is a name that the manifest's checks let through: a single
path component of bounded length, without control characters. -/

namespace Ghostlink.FileTransfer
open Text List FileManifest

def TransferPrimitives.KeepsSeparators (T : TransferPrimitives) : Prop :=
  ∀ s : String, ∀ c ∈ (T.nfc s).toList, c = '/' ∨ c = '\\' → c ∈ s.toList

structure SafeName (cs : List Char) : Prop where
  ends : ∃ c, cs.getLast? = some c ∧ c ≠ '.'
  short : cs.length ≤ maxSafeNameLength
  clean : ∀ c ∈ cs, isControl c = false ∧ c ≠ '/' ∧ c ≠ '\\'

variable {c : Char} {p : Char → Bool}

variable {s : String} {sep : Char} {T : TransferPrimitives}

lemma mem_afterLast (mem : c ∈ (afterLast sep s).toList) : c ∈ s.toList ∧ c ≠ sep := by
  rw [afterLast, String.toList_ofList, mem_reverse] at mem
  have other := mem_takeWhile_imp mem
  have inside := (List.takeWhile_prefix _).subset mem
  exact ⟨mem_reverse.mp inside, bne_iff_ne.mp other⟩

lemma head?_dropWhile {cs : List Char} (h : (cs.dropWhile p).head? = some c) : p c = false := by
  have stopped := head?_dropWhile_not p cs
  rwa [h] at stopped

lemma getLast?_rstripChars {cs} (h : (rstripChars p cs).getLast? = some c) : p c = false := by
  rw [rstripChars, getLast?_reverse] at h
  exact head?_dropWhile h

lemma rstripChars_isPrefix (p cs) : rstripChars p cs <+: cs := by
  rw [← reverse_suffix, rstripChars, reverse_reverse]
  exact dropWhile_suffix p

lemma rstripChars_ne_nil {cs} (mem : c ∈ cs) (stays : p c = false) : rstripChars p cs ≠ [] := by
  intro empty
  rw [rstripChars, reverse_eq_nil_iff, dropWhile_eq_nil_iff] at empty
  have stripped := empty c (mem_reverse.mpr mem)
  rw [stays] at stripped
  exact Bool.false_ne_true stripped

lemma stripChars_eq (p) (cs : List Char) :
    stripChars p cs = rstripChars p (cs.dropWhile p) := rfl

lemma mem_of_mem_stripChars {cs} (mem : c ∈ stripChars p cs) : c ∈ cs := by
  rw [stripChars_eq] at mem
  exact (dropWhile_suffix p).subset ((rstripChars_isPrefix p _).subset mem)

lemma head?_stripChars {cs} (h : (stripChars p cs).head? = some c) : p c = false := by
  rw [stripChars_eq] at h
  obtain ⟨rest, whole⟩ := rstripChars_isPrefix p (cs.dropWhile p)
  apply head?_dropWhile
  rw [← whole, head?_append, h]
  rfl

lemma head?_collapseSpaces (c cs) :
    (collapseSpaces (c :: cs)).head? = some (if isSpace c then ' ' else c) := by
  induction cs generalizing c with
  | nil =>
    rw [collapseSpaces]
    split <;> rfl
  | cons d cs ih =>
    rw [collapseSpaces]
    by_cases first : isSpace c
    · rw [if_pos first, if_pos first]
      by_cases second : isSpace d
      · rw [if_pos second, ih, if_pos second]
      · simp [if_neg second]
    · simp [if_neg first]

lemma collapseSpaces_ne_nil (c cs) : collapseSpaces (c :: cs) ≠ [] := by
  intro empty
  have head := head?_collapseSpaces c cs
  simp [empty] at head

lemma getLast?_collapseSpaces (cs : List Char) :
    (collapseSpaces cs).getLast? = cs.getLast?.map fun c => if isSpace c then ' ' else c := by
  induction cs with
  | nil => rfl
  | cons c cs ih =>
    cases cs with
    | nil =>
      rw [collapseSpaces]
      split
      · rename_i space
        simp [space]
      · rename_i other
        simp only [getLast?_singleton, Option.map_some, other]
        rfl
    | cons d cs =>
      have ne := collapseSpaces_ne_nil d cs
      rw [collapseSpaces, getLast?_cons_cons, ← ih]
      -- whatever comes of the first character, something follows it
      split
      · split
        · rfl
        · exact getLast?_cons_of_ne_nil ne
      · exact getLast?_cons_of_ne_nil ne

lemma mem_collapseSpaces {cs x} (mem : x ∈ collapseSpaces cs) : x = ' ' ∨ x ∈ cs := by
  induction cs with
  | nil => exact Or.inr mem
  | cons c cs ih =>
    cases cs with
    | nil =>
      rw [collapseSpaces] at mem
      split at mem
      · exact Or.inl (mem_singleton.mp mem)
      · exact Or.inr mem
    | cons d cs =>
      have later (mem : x ∈ collapseSpaces (d :: cs)) : x = ' ' ∨ x ∈ c :: d :: cs :=
        (ih mem).imp_right (mem_cons_of_mem c)
      rw [collapseSpaces] at mem
      split at mem
      · split at mem
        · exact later mem
        · exact (mem_cons.mp mem).elim Or.inl later
      · rcases mem_cons.mp mem with rfl | mem
        · exact Or.inr mem_cons_self
        · exact later mem

lemma collapseSpaces_ne_blanks (cs rest) : collapseSpaces cs ≠ ' ' :: ' ' :: rest := by
  induction cs with
  | nil => exact cons_ne_nil _ _ ∘ Eq.symm
  | cons c cs ih =>
    cases cs with
    | nil =>
      rw [collapseSpaces]
      split
      · simp
      · simp
    | cons d cs =>
      rw [collapseSpaces]
      have blank : isSpace ' ' := by decide
      split
      · split
        · exact ih
        · rename_i other
          intro same
          have head := head?_collapseSpaces d cs
          rw [(List.cons.inj same).2, if_neg other] at head
          rw [← Option.some.inj head] at other
          exact other blank
      · rename_i other
        intro same
        rw [(List.cons.inj same).1] at other
        exact other blank

lemma pathSuffix_cases {cs : List Char} (head : cs.head? ≠ some '.')
    (last : cs.getLast? ≠ some '.') : pathSuffix cs = [] ∧ '.' ∉ cs ∨
      ∃ tail, pathSuffix cs = '.' :: tail ∧ tail ≠ [] ∧ '.' ∉ tail ∧ '.' :: tail <:+ cs := by
  obtain ⟨after, known⟩ : ∃ after, after = cs.reverse.takeWhile (· != '.') := ⟨_, rfl⟩
  have value : pathSuffix cs = if after.reverse = [] ∨ cs.length ≤ after.reverse.length + 1 then []
      else '.' :: after.reverse := by rw [pathSuffix, ← known]
  have outside : '.' ∉ after := by
    intro mem
    rw [known] at mem
    have other := mem_takeWhile_imp mem
    exact Bool.false_ne_true other
  have split : after ++ cs.reverse.dropWhile (· != '.') = cs.reverse := by
    rw [known]
    exact takeWhile_append_dropWhile
  cases found : cs.reverse.dropWhile (· != '.') with
  | nil =>
    rw [found, append_nil] at split
    rw [split, reverse_reverse] at value
    rw [split, mem_reverse] at outside
    exact Or.inl ⟨value.trans (if_pos (Or.inr (Nat.le_succ _))), outside⟩
  | cons dot before =>
    have stopped : (dot != '.') = false := by
      have first : (cs.reverse.dropWhile (· != '.')).head? = some dot := by
        rw [found, head?_cons]
      exact head?_dropWhile (p := (· != '.')) first
    rw [found, bne_eq_false_iff_eq.mp stopped] at split
    have whole : cs = before.reverse ++ '.' :: after.reverse := by
      rw [← reverse_reverse cs, ← split]
      simp
    have front : before.reverse ≠ [] := by
      intro empty
      rw [whole, empty] at head
      exact head rfl
    have back : after.reverse ≠ [] := by
      intro empty
      rw [whole, empty, getLast?_concat] at last
      exact last rfl
    refine Or.inr ⟨after.reverse, value.trans (if_neg ?_), back, ?_, ?_⟩
    · have some := length_pos_iff.mpr front
      rw [not_or]
      refine ⟨back, ?_⟩
      rw [whole, length_append, length_cons]
      omega
    · exact fun mem => outside (mem_reverse.mp mem)
    · exact ⟨before.reverse, whole.symm⟩

structure Trimmed (cs : List Char) : Prop where
  nonempty : cs ≠ []
  head : cs.head? ≠ some '.'
  last : cs.getLast? ≠ some '.'
  sparse : ∀ rest, cs ≠ ' ' :: ' ' :: rest
  clean : ∀ c ∈ cs, isControl c = false ∧ c ≠ '/' ∧ c ≠ '\\'

def shortened (cs : List Char) : List Char :=
  let suffix := (pathSuffix cs).take 10
  rstripChars (fun c => c == '.' || c == ' ') (cs.take (maxSafeNameLength - suffix.length)) ++ suffix

namespace Trimmed
variable {cs : List Char}

section
variable (h : Trimmed cs)
include h

lemma safeName (short : cs.length ≤ maxSafeNameLength) : SafeName cs := by
  refine ⟨?_, short, h.clean⟩
  obtain ⟨c, last⟩ := Option.ne_none_iff_exists'.mp (mt getLast?_eq_none_iff.mp h.nonempty)
  refine ⟨c, last, ?_⟩
  intro dot
  rw [dot] at last
  exact h.last last

lemma underscored : Trimmed ('_' :: cs) where
  nonempty := cons_ne_nil _ _
  head := by
    intro same
    exact absurd (Option.some.inj same) (by decide)
  last := by
    rw [getLast?_cons_of_ne_nil h.nonempty]
    exact h.last
  sparse := by
    intro rest same
    exact absurd (List.cons.inj same).1 (by decide)
  clean := by
    intro c mem
    rcases mem_cons.mp mem with rfl | mem
    · decide
    · exact h.clean c mem

lemma exists_kept (nodot : '.' ∉ cs) {n} (long : n + 2 < cs.length) :
    ∃ c ∈ cs.take (n + 2), (c == '.' || c == ' ') = false := by
  by_contra none
  have blank : ∀ c ∈ cs.take (n + 2), c = ' ' := by
    intro c mem
    have stripped : (c == '.' || c == ' ') :=
      Bool.not_eq_false _ ▸ fun kept => none ⟨c, mem, kept⟩
    rcases Bool.or_eq_true_iff.mp stripped with dot | blank
    · rw [beq_iff_eq.mp dot] at mem
      exact absurd ((List.take_prefix _ _).subset mem) nodot
    · exact beq_iff_eq.mp blank
  cases cs with
  | nil => exact h.nonempty rfl
  | cons c cs =>
    cases cs with
    | nil => exact absurd long (by simp)
    | cons d cs =>
      have first := blank c (by simp)
      have second := blank d (by simp)
      rw [first, second] at h
      exact h.sparse cs rfl

lemma ends_shortened (long : maxSafeNameLength < cs.length) :
    ∃ c, (shortened cs).getLast? = some c ∧ c ≠ '.' := by
  rw [shortened]
  rcases pathSuffix_cases h.head h.last with ⟨none, nodot⟩ | ⟨tail, suffix, nonempty, nodot, -⟩
  · -- what is left of the front ends where stripping stopped
    rw [none, take_nil, append_nil, length_nil, Nat.sub_zero]
    obtain ⟨c, mem, kept⟩ := h.exists_kept nodot long
    have stays := rstripChars_ne_nil (p := fun c => c == '.' || c == ' ') mem kept
    obtain ⟨d, last⟩ := Option.ne_none_iff_exists'.mp (mt getLast?_eq_none_iff.mp stays)
    refine ⟨d, last, ?_⟩
    intro dot
    have stopped := getLast?_rstripChars last
    rw [dot] at stopped
    exact Bool.false_ne_true stopped.symm
  · -- the suffix goes on after its dot
    have some : tail.take 9 ≠ [] := by
      rw [Ne, take_eq_nil_iff, not_or]
      exact ⟨by decide, nonempty⟩
    obtain ⟨d, last⟩ := Option.ne_none_iff_exists'.mp (mt getLast?_eq_none_iff.mp some)
    refine ⟨d, ?_, ?_⟩
    · rw [suffix, take_succ_cons, getLast?_append_of_ne_nil _ (cons_ne_nil _ _),
        getLast?_cons_of_ne_nil some, last]
    · intro dot
      rw [dot] at last
      exact nodot ((List.take_prefix _ _).subset (mem_of_getLast? last))

lemma safeName_shortened (long : maxSafeNameLength < cs.length) :
    SafeName (shortened cs) := by
  refine ⟨h.ends_shortened long, ?_, ?_⟩
  · rw [shortened, length_append]
    have front := (rstripChars_isPrefix (fun c => c == '.' || c == ' ')
      (cs.take (maxSafeNameLength - ((pathSuffix cs).take 10).length))).length_le
    have room := length_take_le (maxSafeNameLength - ((pathSuffix cs).take 10).length) cs
    have cut : ((pathSuffix cs).take 10).length ≤ maxSafeNameLength :=
      (length_take_le 10 _).trans (by decide)
    omega
  · intro c mem
    rw [shortened, mem_append] at mem
    rcases mem with mem | mem
    · exact h.clean c ((List.take_prefix _ _).subset ((rstripChars_isPrefix _ _).subset mem))
    · have inside := (List.take_prefix _ _).subset mem
      rcases pathSuffix_cases h.head h.last with ⟨none, -⟩ | ⟨tail, suffix, -, -, part⟩
      · rw [none] at inside
        simp at inside
      · rw [suffix] at inside
        exact h.clean c (part.subset inside)

end

end Trimmed

lemma ne_separator_of_basename {name}
    (mem : c ∈ (['\\', '/', '⁄', '∕'].foldl (fun s sep => afterLast sep s) name).toList) :
    c ≠ '/' ∧ c ≠ '\\' := by
  have slash := mem_afterLast (mem_afterLast (mem_afterLast mem).1).1
  exact ⟨slash.2, (mem_afterLast slash.1).2⟩

lemma trimmed_collapseSpaces {cs} (clean : ∀ c ∈ cs, isControl c = false ∧ c ≠ '/' ∧ c ≠ '\\')
    (nonempty : collapseSpaces (stripChars (· == '.') (stripChars isSpace cs)) ≠ []) :
    Trimmed (collapseSpaces (stripChars (· == '.') (stripChars isSpace cs))) := by
  obtain ⟨stripped, known⟩ :
    ∃ stripped, stripped = stripChars (· == '.') (stripChars isSpace cs) := ⟨_, rfl⟩
  rw [← known] at nonempty ⊢
  have notDot {c : Char} (dot : (c == '.') = false) : (if isSpace c then ' ' else c) ≠ '.' := by
    split
    · decide
    · exact beq_eq_false_iff_ne.mp dot
  refine ⟨nonempty, ?_, ?_, collapseSpaces_ne_blanks stripped, ?_⟩
  · cases hs : stripped with
    | nil => exact nonempty.elim (congrArg collapseSpaces hs)
    | cons c =>
      rw [head?_collapseSpaces]
      have first : (c == '.') = false :=
        head?_stripChars (p := (· == '.')) (by rw [← known, hs]; rfl)
      exact fun same => notDot first (Option.some.inj same)
  · rw [getLast?_collapseSpaces]
    intro same
    obtain ⟨c, last, dot⟩ := Option.map_eq_some_iff.mp same
    rw [known, stripChars_eq] at last
    have stays := getLast?_rstripChars (p := (· == '.')) last
    exact notDot stays dot
  · intro c mem
    rcases mem_collapseSpaces mem with rfl | mem
    · decide
    · rw [known] at mem
      exact clean c (mem_of_mem_stripChars (mem_of_mem_stripChars mem))

lemma safeName_of_sanitizeFilename (keeps : T.KeepsSeparators)
    {name safe : String} (h : sanitizeFilename T name = some safe) : SafeName safe.toList := by
  rw [sanitizeFilename] at h
  obtain ⟨base, known⟩ :
    ∃ base, base = ['\\', '/', '⁄', '∕'].foldl (fun s sep => afterLast sep s) name := ⟨_, rfl⟩
  rw [← known] at h
  have clean : ∀ c ∈ (T.nfc base).toList.filter
      (fun c => !isControl c && T.isprintable c),
      isControl c = false ∧ c ≠ '/' ∧ c ≠ '\\' := by
    intro c mem
    obtain ⟨composed, shown⟩ := mem_filter.mp mem
    have separator (either : c = '/' ∨ c = '\\') : False := by
      have before := keeps base c composed either
      rw [known] at before
      exact either.elim (ne_separator_of_basename before).1 (ne_separator_of_basename before).2
    refine ⟨?_, fun slash => separator (Or.inl slash), fun slash => separator (Or.inr slash)⟩
    exact Bool.eq_false_of_not_eq_true' (Bool.and_eq_true_iff.mp shown).1
  have trimmed := trimmed_collapseSpaces clean
  generalize collapseSpaces _ = cs at h trimmed
  simp only at h
  split at h
  · cases h
  · rename_i usable
    have trimmed := trimmed fun empty => usable (Or.inl empty)
    -- a reserved stem is given an underscore first
    have marked : Trimmed (if reservedNames.contains
        (T.lower (String.ofList (cs.takeWhile (· != '.')))) then '_' :: cs else cs) := by
      split
      · exact trimmed.underscored
      · exact trimmed
    generalize (if reservedNames.contains
        (T.lower (String.ofList (cs.takeWhile (· != '.')))) then '_' :: cs else cs) = cs at h marked
    split at h
    · rename_i long
      rw [← Option.some.inj h, String.toList_ofList]
      exact marked.safeName_shortened long
    · rename_i short
      rw [← Option.some.inj h, String.toList_ofList]
      exact marked.safeName (not_lt.mp short)

namespace SafeName
variable {name : String} (h : SafeName name.toList)
include h

lemma length_bounds : 0 < name.length ∧ name.length ≤ maxManifestFilenameLength := by
  obtain ⟨c, last, -⟩ := h.ends
  rw [← String.length_toList]
  exact ⟨length_pos_of_mem (mem_of_getLast? last), h.short⟩

lemma no_control : name.toList.any isControl = false := by
  rw [any_eq_false]
  intro c mem control
  rw [(h.clean c mem).1] at control
  exact Bool.false_ne_true control

lemma one_component : (name.toList.contains '/' || name.toList.contains '\\' ||
    [".", ".."].contains name) = false := by
  have slash : name.toList.contains '/' = false :=
    Bool.eq_false_iff.mpr fun found => (h.clean '/' (contains_iff_mem.mp found)).2.1 rfl
  have backslash : name.toList.contains '\\' = false :=
    Bool.eq_false_iff.mpr fun found => (h.clean '\\' (contains_iff_mem.mp found)).2.2 rfl
  have directory : [".", ".."].contains name = false := by
    refine Bool.eq_false_iff.mpr fun found => ?_
    obtain ⟨c, last, other⟩ := h.ends
    rcases mem_pair.mp (contains_iff_mem.mp found) with rfl | rfl
    all_goals exact other (Option.some.inj last).symm
  rw [slash, backslash, directory]
  rfl

end SafeName

structure Ordinary (T : TransferPrimitives) (c : Char) : Prop where
  printable : T.isprintable c
  control : isControl c = false
  space : isSpace c = false
  mark : c ∉ ['\\', '/', '⁄', '∕', '.']

lemma afterLast_of_not_mem (absent : sep ∉ s.toList) : afterLast sep s = s := by
  have whole : s.toList.reverse.takeWhile (· != sep) = s.toList.reverse := by
    rw [takeWhile_eq_self_iff]
    intro c mem
    apply bne_iff_ne.mpr
    intro same
    rw [same] at mem
    exact absent (mem_reverse.mp mem)
  rw [afterLast, whole, reverse_reverse, String.ofList_toList]

lemma dropWhile_of_forall {cs : List Char} (none : ∀ c ∈ cs, p c = false) :
    cs.dropWhile p = cs := by
  cases cs with
  | nil => rfl
  | cons c =>
    simp [none c mem_cons_self]

lemma stripChars_of_forall {cs} (none : ∀ c ∈ cs, p c = false) : stripChars p cs = cs := by
  have reversed : ∀ c ∈ cs.reverse, p c = false := fun c mem => none c (mem_reverse.mp mem)
  rw [stripChars, dropWhile_of_forall none, dropWhile_of_forall reversed, reverse_reverse]

lemma collapseSpaces_of_forall {cs} (none : ∀ c ∈ cs, isSpace c = false) :
    collapseSpaces cs = cs := by
  induction cs with
  | nil => rfl
  | cons c cs ih =>
    have first : ¬ isSpace c := by
      rw [none c mem_cons_self]
      exact Bool.false_ne_true
    have rest := ih fun d mem => none d (mem_cons_of_mem _ mem)
    cases cs with
    | nil => rw [collapseSpaces, if_neg first]
    | cons => rw [collapseSpaces, if_neg first, rest]

lemma not_reserved_of_long (long : 4 < s.length) : reservedNames.contains s = false := by
  have brief : ∀ name ∈ reservedNames, name.length ≤ 4 := by decide +kernel
  refine Bool.eq_false_iff.mpr fun reserved => ?_
  exact absurd (brief s (contains_iff_mem.mp reserved)) (not_le.mpr long)

lemma sanitizeFilename_of_ordinary {name : String}
    (composed : T.nfc name = name) (ordinary : ∀ c ∈ name.toList, Ordinary T c)
    (nonempty : name.toList ≠ []) (short : name.toList.length ≤ maxSafeNameLength)
    (free : reservedNames.contains (T.lower name) = false) :
    sanitizeFilename T name = some name := by
  have absent {sep : Char} (mark : sep ∈ ['\\', '/', '⁄', '∕', '.']) : sep ∉ name.toList :=
    fun mem => (ordinary sep mem).mark mark
  have base : ['\\', '/', '⁄', '∕'].foldl (fun s sep => afterLast sep s) name = name := by
    simp only [foldl_cons, foldl_nil]
    rw [afterLast_of_not_mem (absent (by decide)), afterLast_of_not_mem (absent (by decide)),
      afterLast_of_not_mem (absent (by decide)), afterLast_of_not_mem (absent (by decide))]
  have shown : name.toList.filter (fun c => !isControl c && T.isprintable c) =
      name.toList := by
    rw [filter_eq_self]
    intro c mem
    simp [(ordinary c mem).control, (ordinary c mem).printable]
  have noDot : ∀ c ∈ name.toList, (c == '.') = false := by
    intro c mem
    apply beq_eq_false_iff_ne.mpr
    intro dot
    rw [dot] at mem
    exact absent (by decide) mem
  have stem : name.toList.takeWhile (· != '.') = name.toList := by
    rw [takeWhile_eq_self_iff]
    intro c mem
    exact bne_iff_ne.mpr (beq_eq_false_iff_ne.mp (noDot c mem))
  have usable : ¬ (name.toList = [] ∨ name.toList = ".".toList ∨ name.toList = "..".toList) := by
    rintro (empty | dot | dots)
    · exact nonempty empty
    · exact absent (by decide) (dot ▸ by decide : '.' ∈ name.toList)
    · exact absent (by decide) (dots ▸ by decide : '.' ∈ name.toList)
  simp only [sanitizeFilename, base, composed, shown,
    stripChars_of_forall fun c mem => (ordinary c mem).space, stripChars_of_forall noDot,
    collapseSpaces_of_forall fun c mem => (ordinary c mem).space, if_neg usable, stem,
    String.ofList_toList, free, Bool.false_eq_true, if_false, if_neg (not_lt.mpr short)]

end Ghostlink.FileTransfer
