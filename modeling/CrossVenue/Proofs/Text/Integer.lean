import CrossVenue.Proofs.Text.Numeral
import CrossVenue.Proofs.Text.Trimmed

/-!
# The grammar of integers

An integer is written in digits of any scripts, in groups between which stands one underscore, with an
optional sign in front and white space around.  The reader trims, splits off the sign and scans the groups;
here the grammar is stated on its own, and the reader accepts it and nothing else.

* `Text.Numeral` : a written integer, with its characters and its value;
* `Text.grouped?_eq_some_iff` : what is scanned as groups of digits;
* `Text.readIntegerChars?_eq_some_iff`, `Text.readInteger?_eq_some_iff` : what is read, and as what.
-/

set_option autoImplicit false

namespace CrossVenue.Text

/-! ## Written integers -/

/-- A sign in front of digits. -/
inductive Sign
  | absent
  | plus
  | minus

/-- The characters of a sign. -/
def Sign.chars : Sign → List Char
  | absent => []
  | plus => ['+']
  | minus => ['-']

/-- Does a sign make a number negative? -/
def Sign.negative : Sign → Bool
  | minus => true
  | _ => false

/-- Groups of digits: at least one, and none of them empty. -/
structure AreGroups (value? : Char → Option Nat) (groups : List (List Char)) : Prop where
  ne_nil : groups ≠ []
  ne_nil_of_mem : ∀ g ∈ groups, g ≠ []
  isSome_of_mem : ∀ g ∈ groups, ∀ c ∈ g, (value? c).isSome = true

/-- A written integer. -/
structure Numeral where
  before : List Char
  sign : Sign
  groups : List (List Char)
  after : List Char
  before_space : ∀ c ∈ before, isWhiteSpace c = true
  after_space : ∀ c ∈ after, isWhiteSpace c = true
  areGroups : AreGroups digitValue? groups
  short : groups.flatten.length ≤ Number.maxDigits

/-- The characters of a written integer. -/
def Numeral.chars (m : Numeral) : List Char :=
  m.before ++ (m.sign.chars ++ ['_'].intercalate m.groups) ++ m.after

/-- The value of a written integer. -/
def Numeral.value (m : Numeral) : Int :=
  withSign m.sign.negative (decimalValue (m.groups.flatten.filterMap digitValue?))

/-! ## Groups of digits -/

section

variable {value? : Char → Option Nat} {groups : List (List Char)} {g cs : List Char} {ds : List Nat}

theorem intercalate_cons_cons (c : Char) (g : List Char) (rest : List (List Char)) :
    ['_'].intercalate ((c :: g) :: rest) = c :: ['_'].intercalate (g :: rest) := by
  cases rest <;> simp

theorem AreGroups.consDigit {c : Char} {rest : List (List Char)} (h : AreGroups value? (g :: rest))
    (hc : (value? c).isSome = true) : AreGroups value? ((c :: g) :: rest) where
  ne_nil := List.cons_ne_nil _ _
  ne_nil_of_mem := List.forall_mem_cons.2 ⟨List.cons_ne_nil _ _, (List.forall_mem_cons.1 h.ne_nil_of_mem).2⟩
  isSome_of_mem := List.forall_mem_cons.2
    ⟨List.forall_mem_cons.2 ⟨hc, (List.forall_mem_cons.1 h.isSome_of_mem).1⟩,
      (List.forall_mem_cons.1 h.isSome_of_mem).2⟩

theorem AreGroups.consGroup {c : Char} (h : AreGroups value? groups) (hc : (value? c).isSome = true) :
    AreGroups value? ([c] :: groups) where
  ne_nil := List.cons_ne_nil _ _
  ne_nil_of_mem := List.forall_mem_cons.2 ⟨List.cons_ne_nil _ _, h.ne_nil_of_mem⟩
  isSome_of_mem := List.forall_mem_cons.2 ⟨List.forall_mem_singleton.2 hc, h.isSome_of_mem⟩

/-- What is scanned is written in groups. -/
theorem exists_groups_of_grouped? (h : grouped? value? cs = some ds) :
    ∃ groups, AreGroups value? groups ∧ ['_'].intercalate groups = cs ∧
      groups.flatten.filterMap value? = ds := by
  fun_induction grouped? value? cs generalizing ds with
  | case1 => cases h
  | case2 c =>
    obtain ⟨v, hv, rfl⟩ := Option.map_eq_some_iff.1 h
    refine ⟨[[c]], ⟨by simp, by simp, by simp [hv]⟩, by simp, by simp [hv]⟩
  | case3 => cases h
  | case4 c cs v hv ih =>
    obtain ⟨vs, hvs, rfl⟩ := Option.map_eq_some_iff.1 h
    obtain ⟨groups, hgroups, rfl, rfl⟩ := ih hvs
    refine ⟨[c] :: groups, hgroups.consGroup (Option.isSome_of_eq_some hv), ?_, by simp [hv]⟩
    rw [List.intercalate_cons_of_ne_nil hgroups.ne_nil]
    rfl
  | case5 c d cs v hv hd ih =>
    obtain ⟨vs, hvs, rfl⟩ := Option.map_eq_some_iff.1 h
    obtain ⟨groups, hgroups, hcs, rfl⟩ := ih hvs
    obtain ⟨g, rest, rfl⟩ := List.exists_cons_of_ne_nil hgroups.ne_nil
    exact ⟨(c :: g) :: rest, hgroups.consDigit (Option.isSome_of_eq_some hv),
      by rw [intercalate_cons_cons, hcs], by simp [hv]⟩

/-- A run of digits is scanned, and then what follows it. -/
theorem grouped?_append (cs : List Char) (hunderscore : value? '_' = none) (hne : g ≠ [])
    (hg : ∀ c ∈ g, (value? c).isSome = true) :
    grouped? value? g = some (g.filterMap value?) ∧
      grouped? value? (g ++ '_' :: cs) = (grouped? value? cs).map (g.filterMap value? ++ ·) := by
  induction g with
  | nil => exact absurd rfl hne
  | cons c g ih =>
    obtain ⟨hc, hg⟩ := List.forall_mem_cons.1 hg
    obtain ⟨v, hv⟩ := Option.isSome_iff_exists.1 hc
    cases g with
    | nil => simp [grouped?, hv]
    | cons d g =>
      have hd : d ≠ '_' := by
        rintro rfl
        have hsome := hg '_' List.mem_cons_self
        rw [hunderscore] at hsome
        cases hsome
      obtain ⟨ihend, ihmore⟩ := ih (List.cons_ne_nil _ _) hg
      rw [List.cons_append] at ihmore
      rw [List.filterMap_cons_some hv, List.cons_append, List.cons_append]
      simp only [grouped?, hv, if_neg hd, ihend, ihmore, Option.map_some, Option.map_map, true_and]
      rfl

theorem grouped?_of_areGroups (hunderscore : value? '_' = none) (h : AreGroups value? groups) :
    grouped? value? (['_'].intercalate groups) = some (groups.flatten.filterMap value?) := by
  induction groups with
  | nil => exact absurd rfl h.ne_nil
  | cons g rest ih =>
    obtain ⟨hne, hrestne⟩ := List.forall_mem_cons.1 h.ne_nil_of_mem
    obtain ⟨hg, hrest⟩ := List.forall_mem_cons.1 h.isSome_of_mem
    cases rest with
    | nil => simpa using (grouped?_append [] hunderscore hne hg).1
    | cons k rest =>
      rw [List.intercalate_cons_cons, List.append_assoc, List.singleton_append,
        (grouped?_append _ hunderscore hne hg).2, ih ⟨List.cons_ne_nil _ _, hrestne, hrest⟩, Option.map_some,
        List.flatten_cons (l := g), List.filterMap_append]

/-- **What is scanned**: groups of digits, as the values of these. -/
theorem grouped?_eq_some_iff (hunderscore : value? '_' = none) :
    grouped? value? cs = some ds ↔ ∃ groups, AreGroups value? groups ∧ ['_'].intercalate groups = cs ∧
      groups.flatten.filterMap value? = ds := by
  refine ⟨exists_groups_of_grouped?, ?_⟩
  rintro ⟨groups, h, rfl, rfl⟩
  exact grouped?_of_areGroups hunderscore h

/-- What is scanned begins with a digit, and has only digits and underscores. -/
theorem of_grouped?_eq_some (h : grouped? value? cs = some ds) :
    (∀ c ∈ cs.head?, (value? c).isSome = true) ∧ ∀ c ∈ cs, c = '_' ∨ (value? c).isSome = true := by
  fun_induction grouped? value? cs generalizing ds with
  | case1 => simp
  | case2 c =>
    obtain ⟨v, hv, -⟩ := Option.map_eq_some_iff.1 h
    simp [hv]
  | case3 => cases h
  | case4 c cs v hv ih =>
    obtain ⟨vs, hvs, -⟩ := Option.map_eq_some_iff.1 h
    refine ⟨by simp [hv], List.forall_mem_cons.2 ⟨.inr (Option.isSome_of_eq_some hv), ?_⟩⟩
    exact List.forall_mem_cons.2 ⟨.inl rfl, (ih hvs).2⟩
  | case5 c d cs v hv hd ih =>
    obtain ⟨vs, hvs, -⟩ := Option.map_eq_some_iff.1 h
    exact ⟨by simp [hv], List.forall_mem_cons.2 ⟨.inr (Option.isSome_of_eq_some hv), (ih hvs).2⟩⟩

theorem length_filterMap_flatten (h : AreGroups value? groups) :
    (groups.flatten.filterMap value?).length = groups.flatten.length := by
  refine List.filterMap_length_eq_length.2 fun c hc => ?_
  obtain ⟨g, hg, hcg⟩ := List.mem_flatten.1 hc
  exact h.isSome_of_mem g hg c hcg

end

/-! ## Signs and white space -/

theorem zeros_spaceless : ∀ z ∈ digitZeros, ∀ b ∈ blankPoints, ¬ (z ≤ b ∧ b < z + 10) := by
  decide +kernel

/-- A digit is no white space. -/
theorem isWhiteSpace_of_isSome_digitValue? {c : Char} (h : (digitValue? c).isSome = true) :
    isWhiteSpace c = false := by
  rw [Bool.eq_false_iff]
  intro hspace
  have hblank : (CodePoint.char c).isBlank = true := isBlank_of_isWhiteSpace hspace
  unfold digitValue? at h
  split at h
  · rename_i z hz
    have hin := List.find?_some hz
    simp only [Bool.and_eq_true, decide_eq_true_eq] at hin
    exact zeros_spaceless z (List.mem_of_find?_eq_some hz) _ (CodePoint.isBlank_iff.1 hblank) hin
  · cases h

theorem splitSign_append {s : Sign} {cs : List Char}
    (h : ∀ c ∈ cs.head?, (digitValue? c).isSome = true) :
    splitSign (s.chars ++ cs) = (s.negative, cs) := by
  cases s with
  | plus => rfl
  | minus => rfl
  | absent =>
    unfold Sign.chars splitSign
    rw [List.nil_append]
    split
    · exact absurd (h '-' rfl) (by decide +kernel)
    · exact absurd (h '+' rfl) (by decide +kernel)
    · rfl

theorem exists_sign (cs : List Char) :
    ∃ s : Sign, s.negative = (splitSign cs).1 ∧ s.chars ++ (splitSign cs).2 = cs := by
  unfold splitSign
  split
  · exact ⟨.minus, rfl, rfl⟩
  · exact ⟨.plus, rfl, rfl⟩
  · exact ⟨.absent, rfl, rfl⟩

theorem isWhiteSpace_of_mem_sign {s : Sign} {c : Char} (h : c ∈ s.chars) : isWhiteSpace c = false := by
  cases s with
  | absent => cases h
  | plus =>
    rw [List.mem_singleton.1 h]
    decide
  | minus =>
    rw [List.mem_singleton.1 h]
    decide

/-! ## Reading -/

theorem digitValue?_underscore : digitValue? '_' = none := by decide +kernel

/-- A written integer is read as its value. -/
theorem readIntegerChars?_chars (m : Numeral) : readIntegerChars? m.chars = some m.value := by
  have hgrouped := grouped?_of_areGroups digitValue?_underscore m.areGroups
  obtain ⟨hhead, hmem⟩ := of_grouped?_eq_some hgrouped
  have hspace : ∀ c ∈ m.sign.chars ++ ['_'].intercalate m.groups, isWhiteSpace c = false := by
    intro c hc
    rcases List.mem_append.1 hc with hc | hc
    · exact isWhiteSpace_of_mem_sign hc
    · rcases hmem c hc with rfl | hc
      · decide
      · exact isWhiteSpace_of_isSome_digitValue? hc
  have htrim : trim isWhiteSpace m.chars = m.sign.chars ++ ['_'].intercalate m.groups := by
    rw [Numeral.chars, trim_append m.before_space m.after_space, trim_of_all hspace]
  simp only [readIntegerChars?, htrim, splitSign_append hhead, hgrouped]
  rw [if_pos ((length_filterMap_flatten m.areGroups).trans_le m.short), Numeral.value]

/-- **What is read, and as what.** -/
theorem readIntegerChars?_eq_some_iff {cs : List Char} {n : Int} :
    readIntegerChars? cs = some n ↔ ∃ m : Numeral, m.chars = cs ∧ m.value = n := by
  constructor
  · intro h
    obtain ⟨before, after, hcs, hbefore, hafter⟩ := exists_trim isWhiteSpace cs
    unfold readIntegerChars? at h
    obtain ⟨s, hnegative, hchars⟩ := exists_sign (trim isWhiteSpace cs)
    dsimp only at h
    split at h
    · rename_i ds hgrouped
      obtain ⟨groups, hgroups, hrest, rfl⟩ := (grouped?_eq_some_iff digitValue?_underscore).1 hgrouped
      split at h
      · rename_i hshort
        rw [length_filterMap_flatten hgroups] at hshort
        refine ⟨⟨before, s, groups, after, hbefore, hafter, hgroups, hshort⟩, ?_, ?_⟩
        · change before ++ (s.chars ++ ['_'].intercalate groups) ++ after = cs
          rw [hrest, hchars, ← hcs]
        · change withSign s.negative _ = n
          rw [hnegative]
          exact Option.some.inj h
      · cases h
    · cases h
  · rintro ⟨m, rfl, rfl⟩
    exact readIntegerChars?_chars m

theorem readInteger?_eq_some_iff {t : Text} {n : Int} :
    readInteger? t = some n ↔ ∃ m : Numeral, ofChars m.chars = t ∧ m.value = n := by
  rw [readInteger?, Option.bind_eq_some_iff]
  simp only [chars?_eq_some_iff, readIntegerChars?_eq_some_iff]
  constructor
  · rintro ⟨cs, rfl, m, rfl, rfl⟩
    exact ⟨m, rfl, rfl⟩
  · rintro ⟨m, rfl, rfl⟩
    exact ⟨_, rfl, m, rfl, rfl⟩

end CrossVenue.Text
