import Mathlib
import TextTemplate.Filter

/-!
Case filters applied twice. Upper case and lower case are final: no code point that a mapping yields is changed by the
same mapping. Capitalizing takes the first code point apart from the rest, and if its upper case has several letters,
all but the first of them belong to the rest the next time.
-/

namespace TextTemplate.Text

/-! Code points that a mapping leaves alone. -/

def CaseRun.image (run : CaseRun) (code : Nat) : Nat :=
  run.target + (code - run.first)

def CaseRun.codes (run : CaseRun) : List Nat :=
  (List.range ((run.last - run.first) / run.step + 1)).map (run.first + run.step * ·)

theorem CaseRun.mem_codes {run : CaseRun} {code : Nat} (covered : run.covers code = true) : code ∈ run.codes := by
  simp only [covers, Bool.and_eq_true, decide_eq_true_eq, beq_iff_eq] at covered
  obtain ⟨⟨lower, upper⟩, onStep⟩ := covered
  refine List.mem_map.mpr ⟨(code - run.first) / run.step, ?_, ?_⟩
  · rw [List.mem_range, Nat.lt_succ_iff]
    exact Nat.div_le_div_right (Nat.sub_le_sub_right upper _)
  · rw [Nat.mul_div_cancel' (Nat.dvd_of_mod_eq_zero onStep)]
    omega

def mappedCodes (runs : List CaseRun) (expansions : List (Nat × List Nat)) : List Nat :=
  expansions.map Prod.fst ++ runs.flatMap CaseRun.codes

def yieldedCodes (runs : List CaseRun) (expansions : List (Nat × List Nat)) : List Nat :=
  expansions.flatMap Prod.snd ++ runs.flatMap fun run => run.codes.map run.image

def bitsOf (codes : List Nat) : Nat :=
  codes.foldr (fun code bits => 2 ^ code ||| bits) 0

theorem testBit_bitsOf (codes : List Nat) (code : Nat) : (bitsOf codes).testBit code = true ↔ code ∈ codes := by
  induction codes with
  | nil => simp [bitsOf]
  | cons first rest ih =>
      rw [bitsOf, List.foldr_cons, ← bitsOf, Nat.testBit_or, Bool.or_eq_true, ih, Nat.testBit_two_pow, List.mem_cons,
        decide_eq_true_eq, eq_comm]

/-- Whether a mapping is final. The tables are long, so the sets are compared bit by bit. -/
def isFinal (runs : List CaseRun) (expansions : List (Nat × List Nat)) : Bool :=
  Nat.beq (bitsOf (yieldedCodes runs expansions) &&& bitsOf (mappedCodes runs expansions)) 0 &&
    ((yieldedCodes runs expansions).all fun code => decide code.isValidChar) &&
      expansions.all fun entry => !entry.2.isEmpty

structure Final (runs : List CaseRun) (expansions : List (Nat × List Nat)) : Prop where
  unmapped : ∀ code ∈ yieldedCodes runs expansions, code ∉ mappedCodes runs expansions
  valid : ∀ code ∈ yieldedCodes runs expansions, code.isValidChar
  filled : ∀ entry ∈ expansions, entry.2 ≠ []

theorem final_of_isFinal {runs : List CaseRun} {expansions : List (Nat × List Nat)}
    (checked : isFinal runs expansions = true) : Final runs expansions := by
  simp only [isFinal, Bool.and_eq_true, List.all_eq_true, Nat.beq_eq, decide_eq_true_eq] at checked
  obtain ⟨⟨apart, valid⟩, filled⟩ := checked
  refine ⟨?_, valid, fun entry member => by simpa using filled entry member⟩
  intro code yielded mapped
  have both : (bitsOf (yieldedCodes runs expansions) &&& bitsOf (mappedCodes runs expansions)).testBit code = true := by
    rw [Nat.testBit_and, (testBit_bitsOf _ code).mpr yielded, (testBit_bitsOf _ code).mpr mapped, Bool.and_true]
  rw [apart, Nat.zero_testBit] at both
  cases both

theorem code_char {code : Nat} (valid : code.isValidChar) : (CodePoint.char (Char.ofNat code)).code = code := by
  rw [CodePoint.code, Char.toNat_ofNat, if_pos valid]

section

variable {runs : List CaseRun} {expansions : List (Nat × List Nat)} {point image : CodePoint}

theorem mapPoint_of_unmapped (unmapped : point.code ∉ mappedCodes runs expansions) :
    mapPoint runs expansions point = [point] := by
  rw [mappedCodes, List.mem_append, not_or] at unmapped
  have notExpanded : expansions.lookup point.code = none := by
    rw [List.lookup_eq_none_iff]
    intro entry member
    rw [bne_iff_ne]
    rintro same
    exact unmapped.1 (List.mem_map.mpr ⟨entry, member, same.symm⟩)
  have notInRun : (runs.find? fun run => run.covers point.code) = none := by
    rw [List.find?_eq_none]
    intro run member covered
    exact unmapped.2 (List.mem_flatMap.mpr ⟨run, member, CaseRun.mem_codes covered⟩)
  simp only [mapPoint, notExpanded, notInRun]

theorem Final.mapPoint_yielded (final : Final runs expansions) {code : Nat}
    (yielded : code ∈ yieldedCodes runs expansions) :
    mapPoint runs expansions (.char (Char.ofNat code)) = [.char (Char.ofNat code)] := by
  refine mapPoint_of_unmapped ?_
  rw [code_char (final.valid code yielded)]
  exact final.unmapped code yielded

theorem Final.mapPoint_image (final : Final runs expansions) (isImage : image ∈ mapPoint runs expansions point) :
    mapPoint runs expansions image = [image] := by
  cases expanded : expansions.lookup point.code with
  | some codes =>
      simp only [mapPoint, expanded, ofChars, List.map_map, List.mem_map, Function.comp_apply] at isImage
      obtain ⟨code, member, rfl⟩ := isImage
      obtain ⟨before, after, split, -⟩ := List.lookup_eq_some_iff.mp expanded
      refine final.mapPoint_yielded (List.mem_append_left _ (List.mem_flatMap.mpr ⟨(point.code, codes), ?_, member⟩))
      simp [split]
  | none =>
      cases found : runs.find? fun run => run.covers point.code with
      | some run =>
          simp only [mapPoint, expanded, found, ofChars, List.map_singleton, List.mem_singleton] at isImage
          subst isImage
          have covered := List.find?_some found
          have ofRun : run.image point.code ∈ run.codes.map run.image :=
            List.mem_map_of_mem (CaseRun.mem_codes covered)
          refine final.mapPoint_yielded (List.mem_append_right _ (List.mem_flatMap.mpr ⟨run, ?_, ofRun⟩))
          exact List.mem_of_find?_eq_some found
      | none =>
          simp only [mapPoint, expanded, found, List.mem_singleton] at isImage
          subst isImage
          simp only [mapPoint, expanded, found]

theorem Final.mapPoint_ne_nil (final : Final runs expansions) : mapPoint runs expansions point ≠ [] := by
  cases expanded : expansions.lookup point.code with
  | some codes =>
      obtain ⟨before, after, split, -⟩ := List.lookup_eq_some_iff.mp expanded
      have filled := final.filled (point.code, codes) (by simp [split])
      simpa [mapPoint, expanded, ofChars] using filled
  | none =>
      cases found : runs.find? fun run => run.covers point.code <;> simp [mapPoint, expanded, found, ofChars]

end

theorem tables_final :
    isFinal upperRuns upperExpansions = true ∧ isFinal lowerRuns lowerExpansions = true := by
  decide +kernel

theorem upper_final : Final upperRuns upperExpansions :=
  final_of_isFinal tables_final.1

theorem lower_final : Final lowerRuns lowerExpansions :=
  final_of_isFinal tables_final.2

/-! Texts. -/

section

variable {text before : Text} {point : CodePoint}

def KeptByLower (point : CodePoint) : Prop :=
  lowerPoint point = [point]

theorem keptByLower_of_image {image : CodePoint} (yielded : image ∈ lowerPoint point) : KeptByLower image :=
  lower_final.mapPoint_image yielded

theorem lowerPoint_sigmas :
    lowerPoint (.char 'Σ') = [.char 'σ'] ∧ lowerPoint (.char 'σ') = [.char 'σ'] ∧
      lowerPoint (.char 'ς') = [.char 'ς'] := by
  decide +kernel

theorem keptByLower_sigma (final : Bool) : KeptByLower (.char (if final then 'ς' else 'σ')) := by
  cases final with
  | false => exact lowerPoint_sigmas.2.1
  | true => exact lowerPoint_sigmas.2.2

theorem KeptByLower.ne_capitalSigma (kept : KeptByLower point) : point ≠ .char 'Σ' := by
  rintro rfl
  cases lowerPoint_sigmas.1.symm.trans kept

/-- No sigma is left whose form depends on its neighbours. -/
theorem keptByLower_of_mem_lowerAfter (member : point ∈ lowerAfter before text) : KeptByLower point := by
  induction text generalizing before with
  | nil => cases member
  | cons first rest ih =>
      rw [lowerAfter] at member
      split at member
      · rcases List.mem_cons.mp member with rfl | later
        · exact keptByLower_sigma _
        · exact ih later
      · rcases List.mem_append.mp member with yielded | later
        · exact keptByLower_of_image yielded
        · exact ih later

theorem lowerAfter_of_kept (kept : ∀ point ∈ text, KeptByLower point) : lowerAfter before text = text := by
  induction text generalizing before with
  | nil => rfl
  | cons first rest ih =>
      obtain ⟨ofFirst, ofRest⟩ := List.forall_mem_cons.mp kept
      rw [lowerAfter, if_neg ofFirst.ne_capitalSigma, ih ofRest, ofFirst, List.singleton_append]

theorem lower_eq_self_iff : lower text = text ↔ ∀ point ∈ text, KeptByLower point := by
  constructor
  · intro same point member
    rw [← same] at member
    exact keptByLower_of_mem_lowerAfter member
  · exact lowerAfter_of_kept

theorem lower_lower (text : Text) : lower (lower text) = lower text :=
  lower_eq_self_iff.mpr fun _ => keptByLower_of_mem_lowerAfter

theorem upperPoint_of_image {image : CodePoint} (yielded : image ∈ upperPoint point) : upperPoint image = [image] :=
  upper_final.mapPoint_image yielded

theorem upper_upperPoint (point : CodePoint) : upper (upperPoint point) = upperPoint point := by
  calc (upperPoint point).flatMap upperPoint
      = (upperPoint point).flatMap fun image => [image] :=
        List.flatMap_congr fun _ yielded => upperPoint_of_image yielded
    _ = upperPoint point := List.flatMap_singleton' _

theorem upper_upper (text : Text) : upper (upper text) = upper text := by
  calc (text.flatMap upperPoint).flatMap upperPoint
      = text.flatMap fun point => upper (upperPoint point) := List.flatMap_assoc
    _ = upper text := List.flatMap_congr fun point _ => upper_upperPoint point

theorem capitalize_capitalize (point : CodePoint) (rest : Text) :
    capitalize (capitalize (point :: rest)) =
      (upperPoint point).take 1 ++ lower ((upperPoint point).drop 1 ++ lower rest) := by
  cases spelled : upperPoint point with
  | nil => exact absurd spelled upper_final.mapPoint_ne_nil
  | cons letter others =>
      have yielded : letter ∈ upperPoint point := by simp [spelled]
      have kept : upperPoint letter = [letter] := upperPoint_of_image yielded
      rw [capitalize, spelled, List.cons_append, capitalize, kept]
      rfl

theorem capitalize_capitalize_iff (point : CodePoint) (rest : Text) :
    capitalize (capitalize (point :: rest)) = capitalize (point :: rest) ↔
      ∀ later ∈ (upperPoint point).drop 1, KeptByLower later := by
  have once : capitalize (point :: rest) =
      (upperPoint point).take 1 ++ ((upperPoint point).drop 1 ++ lower rest) := by
    rw [capitalize, ← List.append_assoc, List.take_append_drop]
  rw [capitalize_capitalize, once, List.append_cancel_left_eq, lower_eq_self_iff, List.forall_mem_append]
  exact and_iff_left fun _ => keptByLower_of_mem_lowerAfter

end

end TextTemplate.Text

namespace TextTemplate

theorem Filter.ofText_twice {change : Text → Text} (settled : ∀ text, change (change text) = change text)
    {value : Value} {text : Text} (written : value.inserted = some text) :
    ∃ once, (ofText change).apply value [] = .ok once ∧ (ofText change).apply once [] = .ok once := by
  refine ⟨.text (change text), ofText_of_inserted written change, ?_⟩
  have again : (ofText change).apply (.text (change text)) [] = _ := ofText_of_inserted rfl change
  rwa [settled] at again

/-- A value that cannot be written makes the case filters fail. Of any other, lower and upper case are the same applied
twice. Capitalized text is so exactly if lower case leaves alone all that the first code point becomes in upper case,
but for the first letter of that. -/
theorem case_filters_idempotent_iff (value : Value) :
    (value.inserted = none ∧ ∀ filter ∈ [Filter.lower, Filter.upper, Filter.capitalize],
      filter.apply value [] = .error .unwritable) ∨
    ∃ text, value.inserted = some text ∧
      (∃ once, Filter.lower.apply value [] = .ok once ∧ Filter.lower.apply once [] = .ok once) ∧
      (∃ once, Filter.upper.apply value [] = .ok once ∧ Filter.upper.apply once [] = .ok once) ∧
      ∃ once twice, Filter.capitalize.apply value [] = .ok once ∧ Filter.capitalize.apply once [] = .ok twice ∧
        (twice = once ↔ ∀ first rest, text = first :: rest →
          ∀ later ∈ (Text.upperPoint first).drop 1, Text.lowerPoint later = [later]) := by
  cases written : value.inserted with
  | none =>
      refine Or.inl ⟨rfl, ?_⟩
      intro filter member
      rcases (by simpa using member : filter = .lower ∨ filter = .upper ∨ filter = .capitalize) with rfl | rfl | rfl
      all_goals exact Filter.ofText_of_unwritable written _
  | some text =>
      refine Or.inr ⟨text, rfl, Filter.ofText_twice Text.lower_lower written,
        Filter.ofText_twice Text.upper_upper written, _, _, Filter.ofText_of_inserted written _,
        Filter.ofText_of_inserted rfl _, ?_⟩
      rw [Value.text.injEq]
      cases text with
      | nil => simp [Text.capitalize]
      | cons first rest =>
          rw [Text.capitalize_capitalize_iff]
          constructor
          · rintro kept first' rest' same
            obtain ⟨rfl, rfl⟩ := List.cons.inj same
            exact kept
          · intro kept
            exact kept first rest rfl

/-- The upper case of a sharp s is two letters, and the second one is put into lower case the next time. -/
theorem sharp_s_capitalized_twice :
    Filter.capitalize.apply (.text (.ofString "ß")) [] = .ok (.text (.ofString "SS")) ∧
      Filter.capitalize.apply (.text (.ofString "SS")) [] = .ok (.text (.ofString "Ss")) ∧
      ¬ ∀ value once, Filter.capitalize.apply value [] = .ok once → Filter.capitalize.apply once [] = .ok once := by
  have once : Filter.capitalize.apply (.text (.ofString "ß")) [] = .ok (.text (.ofString "SS")) := by cbv
  have twice : Filter.capitalize.apply (.text (.ofString "SS")) [] = .ok (.text (.ofString "Ss")) := by cbv
  refine ⟨once, twice, fun settled => ?_⟩
  have equal := Except.ok.inj (twice.symm.trans (settled _ _ once))
  simp [Text.ofString, Text.ofChars] at equal

end TextTemplate
