import Reckoner.Proofs.Token.Separator
import Reckoner.Text.LowerCase
import Reckoner.Text.Pattern

/-!
# Letter case

Patterns are read with case ignored, and expressions in lower case. The two agree: a letter and its
lower-case image spell the same letters of a pattern. Beyond ASCII this hangs on a few facts about
the table of images, which are checked run by run.
-/

namespace Reckoner.Text

/-! ## ASCII -/

/-- What holds of the first 128 code points holds of every ASCII character. -/
theorem of_ascii {p : Char → Prop} (all : ∀ n < 0x80, p (Char.ofNat n)) {c : Char}
    (ascii : c.toNat < 0x80) : p c := by
  have holds := all c.toNat ascii
  rwa [Char.ofNat_toNat] at holds

theorem toLower_of_not_upper {c : Char} (small : c.isUpper = false) : c.toLower = c := by
  have outside : ¬ (c.val ≥ 'A'.val ∧ c.val ≤ 'Z'.val) := of_decide_eq_false small
  exact dif_neg outside

theorem isUpper_of_not_ascii {c : Char} (large : 0x80 ≤ c.toNat) : c.isUpper = false := by
  rw [Bool.eq_false_iff]
  intro upper
  have range : 65 ≤ c.toNat ∧ c.toNat ≤ 90 := of_decide_eq_true upper
  omega

theorem toLower_of_not_ascii {c : Char} (large : 0x80 ≤ c.toNat) : c.toLower = c :=
  toLower_of_not_upper (isUpper_of_not_ascii large)

/-! ## The table of images -/

/-- The last code point that a run of the table goes to. -/
def Table.CaseRun.lastImage (run : Table.CaseRun) : Nat :=
  run.image + (run.last - run.first)

theorem valid_of_mem_lowered :
    ∀ run ∈ Table.lowered, run.lastImage < 0xd800 ∨
      0xdfff < run.image ∧ run.lastImage < 0x110000 := by
  decide +kernel

/-- The kelvin sign alone has an image in ASCII. -/
theorem image_of_mem_lowered :
    ∀ run ∈ Table.lowered, 0x80 ≤ run.image ∨
      run.image = 0x6b ∧ run.first = 0x212a ∧ run.last = 0x212a := by
  decide +kernel

/-- The long s and the kelvin sign are no images. -/
theorem image_avoids_of_mem_lowered :
    ∀ run ∈ Table.lowered, ∀ code ∈ [0x17f, 0x212a], code < run.image ∨ run.lastImage < code := by
  decide +kernel

theorem blank_avoids_of_mem_lowered :
    ∀ run ∈ Table.lowered, ∀ range ∈ blankRanges,
      (run.last < range.1 ∨ range.2 < run.first) ∧
        (run.lastImage < range.1 ∨ range.2 < run.image) := by
  decide +kernel

/-- A character beyond ASCII is its own image, or it lies in a run of the table. -/
theorem lowerChar_of_not_ascii {c : Char} (large : 0x80 ≤ c.toNat) :
    lowerChar c = c ∨
      ∃ run ∈ Table.lowered, (run.first ≤ c.toNat ∧ c.toNat ≤ run.last) ∧
        run.image ≤ (lowerChar c).toNat ∧ (lowerChar c).toNat ≤ run.lastImage := by
  rw [lowerChar, if_neg (Nat.not_lt.mpr large)]
  cases found : Table.lowered.findSome? (·.lower? c) with
  | none => exact .inl rfl
  | some image =>
      rcases List.exists_of_findSome?_eq_some found with ⟨run, mem, lowered⟩
      unfold Table.CaseRun.lower? at lowered
      split at lowered
      · rename_i inside
        cases lowered
        have bounds := valid_of_mem_lowered run mem
        have last : run.lastImage = run.image + (run.last - run.first) := rfl
        have valid : (run.image + (c.toNat - run.first)).isValidChar := by
          unfold Nat.isValidChar
          omega
        have code : (Char.ofNat (run.image + (c.toNat - run.first))).toNat =
            run.image + (c.toNat - run.first) := by
          rw [Char.ofNat, dif_pos valid]
          rfl
        refine .inr ⟨run, mem, ⟨inside.1, inside.2.1⟩, ?_⟩
        rw [Option.getD_some, code]
        omega
      · contradiction

theorem lowerChar_of_blank {c : Char} (blank : isBlank c = true) : lowerChar c = c := by
  by_cases ascii : c.toNat < 0x80
  · exact of_ascii (p := fun c => isBlank c = true → lowerChar c = c) (by decide) ascii blank
  · rcases lowerChar_of_not_ascii (Nat.le_of_not_lt ascii) with same | ⟨run, mem, inRun, _⟩
    · exact same
    · rcases CodeRanges.contains_iff.mp blank with ⟨range, inBlank, low, high⟩
      have apart := (blank_avoids_of_mem_lowered run mem range inBlank).1
      omega

@[simp]
theorem isBlank_lowerChar (c : Char) : isBlank (lowerChar c) = isBlank c := by
  by_cases ascii : c.toNat < 0x80
  · exact of_ascii (p := fun c => isBlank (lowerChar c) = isBlank c) (by decide) ascii
  · have same : isBlank c = true → isBlank (lowerChar c) = true :=
      fun blank => by rw [lowerChar_of_blank blank, blank]
    refine Bool.eq_iff_iff.mpr ⟨fun blank => ?_, same⟩
    rcases lowerChar_of_not_ascii (Nat.le_of_not_lt ascii) with same | ⟨run, mem, _, inImage⟩
    · rwa [same] at blank
    · rcases CodeRanges.contains_iff.mp blank with ⟨range, inBlank, low, high⟩
      have apart := (blank_avoids_of_mem_lowered run mem range inBlank).2
      omega

/-! ## Letters with case ignored -/

/-- The letter that a character spells in a pattern. -/
def foldedChar (c : Char) : Char :=
  if c = 'ſ' then 's' else if c = '\u212a' then 'k' else c.toLower

theorem spells_iff {l c : Char} (ascii : l.toNat < 0x80) : spells l c = true ↔ foldedChar c = l := by
  have longS : l ≠ 'ſ' := by
    rintro rfl
    contradiction
  have kelvin : l ≠ '\u212a' := by
    rintro rfl
    contradiction
  have split : spells l c = true ↔
      c.toLower = l ∨ (l = 's' ∧ c = 'ſ') ∨ (l = 'k' ∧ c = '\u212a') := by
    simp only [spells, Bool.or_eq_true, Bool.and_eq_true, beq_iff_eq, or_assoc]
  rw [split, foldedChar]
  by_cases isLongS : c = 'ſ'
  · have other : c ≠ '\u212a' := by
      rw [isLongS]
      decide
    have lowered : c.toLower ≠ l := by
      rw [isLongS]
      exact longS.symm
    rw [if_pos isLongS, or_iff_right lowered, or_iff_left (other ·.2), and_iff_left isLongS, eq_comm]
  · rw [if_neg isLongS]
    by_cases isKelvin : c = '\u212a'
    · have lowered : c.toLower ≠ l := by
        rw [isKelvin]
        exact kelvin.symm
      rw [if_pos isKelvin, or_iff_right lowered, or_iff_right (isLongS ·.2),
        and_iff_left isKelvin, eq_comm]
    · rw [if_neg isKelvin, or_iff_left]
      rintro (⟨_, same⟩ | ⟨_, same⟩)
      · exact isLongS same
      · exact isKelvin same

theorem foldedChar_of_not_ascii {c : Char} (large : 0x80 ≤ c.toNat) (longS : c.toNat ≠ 0x17f)
    (kelvin : c.toNat ≠ 0x212a) : foldedChar c = c := by
  have notLongS : c ≠ 'ſ' := fun same => longS (congrArg Char.toNat same)
  have notKelvin : c ≠ '\u212a' := fun same => kelvin (congrArg Char.toNat same)
  rw [foldedChar, if_neg notLongS, if_neg notKelvin, toLower_of_not_ascii large]

theorem foldedChar_of_blank {c : Char} (blank : isBlank c = true) : foldedChar c = c := by
  by_cases ascii : c.toNat < 0x80
  · exact of_ascii (p := fun c => isBlank c = true → foldedChar c = c) (by decide) ascii blank
  · refine foldedChar_of_not_ascii (Nat.le_of_not_lt ascii) ?_ ?_
    · intro longS
      rw [show c = 'ſ' from Char.toNat_inj.mp longS] at blank
      exact absurd blank (by decide)
    · intro kelvin
      rw [show c = '\u212a' from Char.toNat_inj.mp kelvin] at blank
      exact absurd blank (by decide)

/-- A letter and its image in lower case spell the same letters. -/
theorem foldedChar_lowerChar_eq_iff {l : Char} (ascii : l.toNat < 0x80) (c : Char) :
    foldedChar (lowerChar c) = l ↔ foldedChar c = l := by
  by_cases small : c.toNat < 0x80
  · rw [of_ascii (p := fun c => foldedChar (lowerChar c) = foldedChar c) (by decide) small]
  by_cases longS : c = 'ſ'
  · have same : lowerChar 'ſ' = 'ſ' := by decide
    rw [longS, same]
  by_cases kelvin : c = '\u212a'
  · have same : foldedChar (lowerChar '\u212a') = foldedChar '\u212a' := by decide
    rw [kelvin, same]
  have large := Nat.le_of_not_lt small
  rcases lowerChar_of_not_ascii large with same | ⟨run, mem, inRun, inImage⟩
  · rw [same]
  · -- Neither `c` nor its image spells a letter of ASCII.
    have notKelvin : c.toNat ≠ 0x212a := fun same => kelvin (Char.toNat_inj.mp same)
    have notLongS : c.toNat ≠ 0x17f := fun same => longS (Char.toNat_inj.mp same)
    have beyond := image_of_mem_lowered run mem
    have imageLongS := image_avoids_of_mem_lowered run mem 0x17f (by decide)
    have imageKelvin := image_avoids_of_mem_lowered run mem 0x212a (by decide)
    rw [foldedChar_of_not_ascii large notLongS notKelvin,
      foldedChar_of_not_ascii (by omega) (by omega) (by omega)]
    constructor <;> rintro rfl <;> omega

/-! ## Patterns -/

theorem afterPattern?_eq_some_iff {pattern t rest : Text} (ascii : ∀ l ∈ pattern, l.toNat < 0x80) :
    afterPattern? pattern t = some rest ↔
      ∃ front : Text, front ++ rest = t ∧ front.map foldedChar = pattern := by
  induction pattern generalizing t with
  | nil =>
      rw [afterPattern?_nil]
      constructor
      · rintro ⟨⟩
        exact ⟨[], rfl, rfl⟩
      · rintro ⟨front, rfl, none⟩
        rw [List.map_eq_nil_iff.mp none]
        rfl
  | cons l pattern ih =>
      have ⟨head, tail⟩ := List.forall_mem_cons.mp ascii
      cases t with
      | nil =>
          rw [afterPattern?]
          refine ⟨fun found => (Option.some_ne_none rest found.symm).elim, ?_⟩
          rintro ⟨front, whole, spelled⟩
          rw [(List.append_eq_nil_iff.mp whole).1] at spelled
          contradiction
      | cons c t =>
          have peeled : (∃ front : Text, front ++ rest = c :: t ∧
                front.map foldedChar = l :: pattern) ↔
              foldedChar c = l ∧ ∃ front : Text, front ++ rest = t ∧
                front.map foldedChar = pattern := by
            constructor
            · rintro ⟨front, whole, spelled⟩
              rcases List.map_eq_cons_iff.mp spelled with ⟨d, front, rfl, first, others⟩
              rcases List.cons_eq_cons.mp whole with ⟨rfl, back⟩
              exact ⟨first, front, back, others⟩
            · rintro ⟨rfl, front, rfl, rfl⟩
              exact ⟨c :: front, rfl, rfl⟩
          rw [afterPattern?, peeled, ← ih tail]
          by_cases first : foldedChar c = l
          · rw [if_pos ((spells_iff head).mpr first), and_iff_right first]
          · rw [if_neg (mt (spells_iff head).mp first)]
            simp [first]

theorem afterPattern?_isSome_iff {pattern t : Text} (ascii : ∀ l ∈ pattern, l.toNat < 0x80) :
    (afterPattern? pattern t).isSome = true ↔ pattern <+: t.map foldedChar := by
  simp only [Option.isSome_iff_exists, afterPattern?_eq_some_iff ascii]
  constructor
  · rintro ⟨rest, front, rfl, rfl⟩
    rw [List.map_append]
    exact List.prefix_append _ _
  · rintro ⟨tail, whole⟩
    rcases List.append_eq_map_iff.mp whole with ⟨front, rest, rfl, spelled, _⟩
    exact ⟨rest, front, rfl, spelled⟩

theorem prefix_map_lowerChar_iff {pattern : Text} (ascii : ∀ l ∈ pattern, l.toNat < 0x80)
    (t : Text) :
    pattern <+: (t.map lowerChar).map foldedChar ↔ pattern <+: t.map foldedChar := by
  induction pattern generalizing t with
  | nil => simp
  | cons l pattern ih =>
      have ⟨head, tail⟩ := List.forall_mem_cons.mp ascii
      cases t with
      | nil => rfl
      | cons c t =>
          simp only [List.map_cons, List.cons_prefix_cons]
          rw [ih tail, eq_comm, foldedChar_lowerChar_eq_iff head, eq_comm]

/-! ## Texts -/

/-- A character of ASCII or a blank. -/
def IsPlain (c : Char) : Prop :=
  c.toNat < 0x80 ∨ isBlank c = true

instance (c : Char) : Decidable (IsPlain c) :=
  inferInstanceAs (Decidable (c.toNat < 0x80 ∨ isBlank c = true))

/-- Only the kelvin sign comes to be plain in lower case. -/
theorem isPlain_of_lowerChar {c : Char} (plain : IsPlain (lowerChar c)) :
    IsPlain c ∨ c = '\u212a' := by
  by_cases ascii : c.toNat < 0x80
  · exact .inl (.inl ascii)
  rcases plain with image | blank
  · rcases lowerChar_of_not_ascii (Nat.le_of_not_lt ascii) with same | ⟨run, mem, inRun, inImage⟩
    · rw [same] at image
      exact .inl (.inl image)
    · have beyond := image_of_mem_lowered run mem
      exact .inr (Char.toNat_inj.mp (show c.toNat = 0x212a by omega))
  · rw [isBlank_lowerChar] at blank
    exact .inl (.inr blank)

/-- Without the two exceptions, a text is lowered character by character. -/
theorem lowerFrom_eq_map {t : Text} (sigma : 'Σ' ∉ t) (dotted : 'İ' ∉ t) (before : Text) :
    lowerFrom before t = t.map lowerChar := by
  induction t generalizing before with
  | nil => rfl
  | cons c rest ih =>
      rw [List.mem_cons, not_or] at sigma dotted
      rw [lowerFrom_cons, lowerAt, if_neg (Ne.symm sigma.1), if_neg (Ne.symm dotted.1),
        ih sigma.2 dotted.2]
      rfl

theorem lowerAt_subset_lowerFrom {c : Char} {t : Text} (mem : c ∈ t) (before : Text) :
    ∃ front back, lowerAt front c back ⊆ lowerFrom before t := by
  induction t generalizing before with
  | nil => contradiction
  | cons d rest ih =>
      rw [lowerFrom_cons]
      rcases List.mem_cons.mp mem with rfl | mem
      · exact ⟨before, rest, List.subset_append_left _ _⟩
      · rcases ih mem (d :: before) with ⟨front, back, inRest⟩
        exact ⟨front, back, List.Subset.trans inRest (List.subset_append_right _ _)⟩

/-- The two exceptions leave characters beyond ASCII that are not blank. -/
theorem lower_eq_map_of_plain {t : Text} (plain : ∀ c ∈ lower t, IsPlain c) :
    lower t = t.map lowerChar := by
  refine lowerFrom_eq_map (fun sigma => ?_) (fun dotted => ?_) []
  · rcases lowerAt_subset_lowerFrom sigma [] with ⟨front, back, inLower⟩
    have beyond : ∀ c ∈ ['ς', 'σ'], ¬ IsPlain c := by decide
    rw [lowerAt, if_pos rfl] at inLower
    split at inLower
    · exact beyond 'ς' (by decide) (plain _ (inLower List.mem_cons_self))
    · exact beyond 'σ' (by decide) (plain _ (inLower List.mem_cons_self))
  · rcases lowerAt_subset_lowerFrom dotted [] with ⟨front, back, inLower⟩
    have beyond : ¬ IsPlain '\u0307' := by decide
    have notSigma : ¬ 'İ' = 'Σ' := by decide
    rw [lowerAt, if_neg notSigma, if_pos rfl] at inLower
    exact beyond (plain _ (inLower (List.mem_cons_of_mem _ List.mem_cons_self)))

end Reckoner.Text
