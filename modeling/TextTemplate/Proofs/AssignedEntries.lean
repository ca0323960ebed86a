import Mathlib
import TextTemplate.Entries

/-!
What is left of entries that are assigned one after another: of those with the same key the last one, in the place of
the first. All are left, and as they are, exactly if no two of them have the same key.
-/

namespace TextTemplate.Entries

variable {Key Item : Type} {same : Key → Key → Bool} {entries added : List (Key × Item)}

def Distinct (same : Key → Key → Bool) (entries : List (Key × Item)) : Prop :=
  entries.Pairwise fun first second => same first.1 second.1 = false

theorem distinct_concat_iff {key : Key} {item : Item} : Distinct same (entries ++ [(key, item)]) ↔
    Distinct same entries ∧ ∀ entry ∈ entries, same entry.1 key = false := by
  simp [Distinct, List.pairwise_append]

theorem assign_cases (same : Key → Key → Bool) (entries : List (Key × Item)) (key : Key) (item : Item) :
    ((∀ entry ∈ entries, same entry.1 key = false) ∧ assign same entries key item = entries ++ [(key, item)]) ∨
    ∃ before known old after, entries = before ++ (known, old) :: after ∧ same known key = true ∧
      (∀ entry ∈ before, same entry.1 key = false) ∧
      assign same entries key item = before ++ (known, item) :: after := by
  induction entries with
  | nil => exact Or.inl ⟨List.forall_mem_nil _, rfl⟩
  | cons first rest ih =>
      obtain ⟨known, old⟩ := first
      by_cases found : same known key = true
      · right
        refine ⟨[], known, old, rest, rfl, found, List.forall_mem_nil _, ?_⟩
        rw [assign, if_pos found, List.nil_append]
      · have apart : same known key = false := by simpa using found
        rw [assign, if_neg found]
        rcases ih with ⟨fresh, added⟩ | ⟨before, other, older, after, rfl, isSame, earlier, replaced⟩
        · left
          rw [added]
          exact ⟨List.forall_mem_cons.mpr ⟨apart, fresh⟩, rfl⟩
        · right
          rw [replaced]
          exact ⟨(known, old) :: before, other, older, after, rfl, isSame,
            List.forall_mem_cons.mpr ⟨apart, earlier⟩, rfl⟩

theorem mem_of_find? {key : Key} {item : Item} (found : find? same entries key = some item) :
    ∃ known, same known key = true ∧ (known, item) ∈ entries := by
  induction entries with
  | nil => cases found
  | cons first rest ih =>
      obtain ⟨known, old⟩ := first
      rw [find?] at found
      split at found
      next isSame =>
        obtain rfl := Option.some.inj found
        exact ⟨known, isSame, List.mem_cons_self⟩
      next =>
        obtain ⟨later, isSame, member⟩ := ih found
        exact ⟨later, isSame, List.mem_cons_of_mem _ member⟩

theorem mem_or_of_mem_assign {key : Key} {item : Item} {entry : Key × Item}
    (member : entry ∈ assign same entries key item) : entry ∈ entries ∨ entry.2 = item := by
  rcases assign_cases same entries key item with ⟨-, added⟩ | ⟨before, known, old, after, rfl, -, -, replaced⟩
  · rw [added, List.mem_append, List.mem_singleton] at member
    exact member.imp_right fun isNew => by rw [isNew]
  · rw [replaced, List.mem_append, List.mem_cons] at member
    rcases member with inFront | rfl | inRest
    · exact Or.inl (List.mem_append_left _ inFront)
    · exact Or.inr rfl
    · exact Or.inl (List.mem_append_right _ (List.mem_cons_of_mem _ inRest))

theorem distinct_assign (distinct : Distinct same entries) (key : Key) (item : Item) :
    Distinct same (assign same entries key item) := by
  rcases assign_cases same entries key item with ⟨fresh, added⟩ | ⟨before, known, old, after, rfl, -, -, replaced⟩
  · rw [added]
    exact distinct_concat_iff.mpr ⟨distinct, fresh⟩
  · rw [replaced]
    simpa [Distinct, List.pairwise_append] using distinct

theorem length_assign_le (key : Key) (item : Item) :
    (assign same entries key item).length ≤ entries.length + 1 := by
  rcases assign_cases same entries key item with ⟨-, added⟩ | ⟨before, known, old, after, rfl, -, -, replaced⟩
  · simp [added]
  · simp [replaced]

theorem assignAll_concat (key : Key) (item : Item) : assignAll same entries (added ++ [(key, item)]) =
    assign same (assignAll same entries added) key item := by
  simp [assignAll]

theorem distinct_assignAll (distinct : Distinct same entries) (added : List (Key × Item)) :
    Distinct same (assignAll same entries added) := by
  induction added generalizing entries with
  | nil => exact distinct
  | cons entry rest ih => exact ih (distinct_assign distinct entry.1 entry.2)

theorem length_assignAll_le (added : List (Key × Item)) : (assignAll same [] added).length ≤ added.length := by
  induction added using List.reverseRecOn with
  | nil => exact Nat.le_refl _
  | append_singleton front last ih =>
      rw [assignAll_concat, List.length_append, List.length_singleton]
      exact (length_assign_le last.1 last.2).trans (Nat.succ_le_succ ih)

theorem assignAll_of_distinct (distinct : Distinct same added) : assignAll same [] added = added := by
  induction added using List.reverseRecOn with
  | nil => rfl
  | append_singleton front last ih =>
      obtain ⟨ofFront, fresh⟩ := distinct_concat_iff.mp distinct
      rw [assignAll_concat, ih ofFront]
      rcases assign_cases same front last.1 last.2 with ⟨-, added⟩ | ⟨before, known, old, after, rfl, isSame, -⟩
      · exact added
      · have apart := fresh (known, old) (by simp)
        rw [isSame] at apart
        cases apart

theorem length_assignAll_eq_iff :
    (assignAll same [] added).length = added.length ↔ Distinct same added := by
  constructor
  · intro count
    induction added using List.reverseRecOn with
    | nil => exact .nil
    | append_singleton front last ih =>
        have bound : (assignAll same [] front).length ≤ front.length := length_assignAll_le front
        rw [assignAll_concat, List.length_append, List.length_singleton] at count
        rcases assign_cases same (assignAll same [] front) last.1 last.2 with
          ⟨fresh, added⟩ | ⟨before, known, old, after, split, -, -, replaced⟩
        · rw [added, List.length_append, List.length_singleton] at count
          have ofFront := ih (Nat.succ.inj count)
          rw [assignAll_of_distinct ofFront] at fresh
          exact distinct_concat_iff.mpr ⟨ofFront, fresh⟩
        · rw [replaced] at count
          rw [split] at bound
          simp only [List.length_append, List.length_cons] at count bound
          omega
  · intro distinct
    rw [assignAll_of_distinct distinct]

theorem mem_assign_iff {key : Key} {item : Item} (distinct : Distinct same entries)
    (equal : ∀ entry ∈ entries, same entry.1 key = true → entry.1 = key) (entry : Key × Item) :
    entry ∈ assign same entries key item ↔
      entry = (key, item) ∨ (entry ∈ entries ∧ same entry.1 key = false) := by
  rcases assign_cases same entries key item with
    ⟨fresh, added⟩ | ⟨before, known, old, after, rfl, isSame, earlier, replaced⟩
  · rw [added, List.mem_append, List.mem_singleton, or_comm]
    exact or_congr_right (iff_self_and.mpr (fresh entry))
  · obtain rfl : known = key := equal (known, old) (by simp) isSame
    have later : ∀ other ∈ after, same other.1 known = false := by
      intro other member
      by_contra found
      have sameKey : other.1 = known := equal other (by simp [member]) (by simpa using found)
      have apart := (List.pairwise_cons.mp (List.pairwise_append.mp distinct).2.1).1 other member
      rw [sameKey, isSame] at apart
      cases apart
    rw [replaced]
    simp only [List.mem_append, List.mem_cons]
    constructor
    · rintro (inBefore | rfl | inAfter)
      · exact Or.inr ⟨Or.inl inBefore, earlier entry inBefore⟩
      · exact Or.inl rfl
      · exact Or.inr ⟨Or.inr (Or.inr inAfter), later entry inAfter⟩
    · rintro (rfl | ⟨inBefore | rfl | inAfter, apart⟩)
      · exact Or.inr (Or.inl rfl)
      · exact Or.inl inBefore
      · rw [isSame] at apart
        cases apart
      · exact Or.inr (Or.inr inAfter)

/-- An entry is left exactly if it is the last one with its key. -/
theorem mem_assignAll_iff
    (equal : added.Pairwise fun first second => same first.1 second.1 = true → first.1 = second.1)
    (entry : Key × Item) : entry ∈ assignAll same [] added ↔
      ∃ before after, added = before ++ entry :: after ∧ ∀ later ∈ after, same entry.1 later.1 = false := by
  induction added using List.reverseRecOn generalizing entry with
  | nil => simp [assignAll]
  | append_singleton front last ih =>
      obtain ⟨ofFront, -, toLast⟩ := List.pairwise_append.mp equal
      have equalToLast : ∀ other ∈ assignAll same [] front, same other.1 last.1 = true → other.1 = last.1 := by
        intro other member
        obtain ⟨before, after, rfl, -⟩ := (ih ofFront other).mp member
        exact toLast other (by simp) last (List.mem_singleton_self last)
      rw [assignAll_concat, mem_assign_iff (distinct_assignAll .nil front) equalToLast entry, ih ofFront entry]
      constructor
      · rintro (rfl | ⟨⟨before, after, rfl, later⟩, apart⟩)
        · exact ⟨front, [], rfl, List.forall_mem_nil _⟩
        · refine ⟨before, after ++ [last], by simp, ?_⟩
          intro other member
          rcases List.mem_append.mp member with inAfter | isLast
          · exact later other inAfter
          · rw [List.mem_singleton.mp isLast]
            exact apart
      · rintro ⟨before, after, split, later⟩
        rcases List.eq_nil_or_concat after with rfl | ⟨more, final, rfl⟩
        · obtain ⟨-, same⟩ := List.append_inj' split rfl
          exact Or.inl (List.singleton_inj.mp same).symm
        · rw [List.concat_eq_append, ← List.cons_append, ← List.append_assoc] at split
          rw [List.concat_eq_append] at later
          obtain ⟨rfl, same⟩ := List.append_inj' split rfl
          obtain rfl := List.singleton_inj.mp same
          refine Or.inr ⟨⟨before, more, rfl, fun other member => later other ?_⟩, later last ?_⟩
          · exact List.mem_append_left _ member
          · exact List.mem_append_right _ (List.mem_singleton_self last)

def firstKeys (same : Key → Key → Bool) (keys : List Key) : List Key :=
  keys.foldl (fun known key => if known.any (same · key) then known else known ++ [key]) []

theorem firstKeys_concat (keys : List Key) (key : Key) : firstKeys same (keys ++ [key]) =
    if (firstKeys same keys).any (same · key) then firstKeys same keys else firstKeys same keys ++ [key] := by
  simp [firstKeys]

theorem keys_assignAll (same : Key → Key → Bool) (added : List (Key × Item)) :
    (assignAll same [] added).map Prod.fst = firstKeys same (added.map Prod.fst) := by
  induction added using List.reverseRecOn with
  | nil => rfl
  | append_singleton front last ih =>
      rw [assignAll_concat, List.map_append, List.map_singleton, firstKeys_concat, ← ih]
      rcases assign_cases same (assignAll same [] front) last.1 last.2 with
        ⟨fresh, added⟩ | ⟨before, known, old, after, split, isSame, -, replaced⟩
      · have absent : ((assignAll same [] front).map Prod.fst).any (same · last.1) = false := by
          simpa using fun key item member => fresh (key, item) member
        rw [added, absent]
        simp
      · have present : ((assignAll same [] front).map Prod.fst).any (same · last.1) = true := by
          simp [split, isSame]
        rw [replaced, present, split]
        simp

/-- Of entries with the same key the last one is left, in the place of the first, and all are if no two have the same
key. -/
structure MergesTo (same : Key → Key → Bool) (added merged : List (Key × Item)) : Prop where
  mem_iff (entry : Key × Item) : entry ∈ merged ↔
    ∃ before after, added = before ++ entry :: after ∧ ∀ later ∈ after, same entry.1 later.1 = false
  keys : merged.map Prod.fst = firstKeys same (added.map Prod.fst)
  length_le : merged.length ≤ added.length
  length_eq_iff : merged.length = added.length ↔ Distinct same added
  all_left : Distinct same added → merged = added

theorem mergesTo_assignAll
    (equal : added.Pairwise fun first second => same first.1 second.1 = true → first.1 = second.1) :
    MergesTo same added (assignAll same [] added) where
  mem_iff := mem_assignAll_iff equal
  keys := keys_assignAll same added
  length_le := length_assignAll_le added
  length_eq_iff := length_assignAll_eq_iff
  all_left := assignAll_of_distinct

end TextTemplate.Entries
