/-!
Entries in the order in which their keys were first assigned. Assigning to a key that is present keeps its
place and replaces its value.
-/

namespace TextTemplate.Entries

variable {Key Item : Type}

def assign (same : Key → Key → Bool) (entries : List (Key × Item)) (key : Key) (item : Item) :
    List (Key × Item) :=
  match entries with
  | [] => [(key, item)]
  | (known, old) :: rest =>
    if same known key then (known, item) :: rest else (known, old) :: assign same rest key item

def find? (same : Key → Key → Bool) (entries : List (Key × Item)) (key : Key) : Option Item :=
  match entries with
  | [] => none
  | (known, item) :: rest => if same known key then some item else find? same rest key

def assignAll (same : Key → Key → Bool) (entries added : List (Key × Item)) : List (Key × Item) :=
  added.foldl (fun known (key, item) => assign same known key item) entries

/-- Sameness of keys is symmetric and transitive; a key need not be the same as itself. -/
structure IsSameness (same : Key → Key → Bool) : Prop where
  symm {key other : Key} : same key other = true → same other key = true
  trans {key other third : Key} : same key other = true → same other third = true → same key third = true

theorem isSameness_beq [BEq Key] [LawfulBEq Key] : IsSameness (· == · : Key → Key → Bool) where
  symm equal := beq_iff_eq.mpr (beq_iff_eq.mp equal).symm
  trans first second := beq_iff_eq.mpr ((beq_iff_eq.mp first).trans (beq_iff_eq.mp second))

theorem IsSameness.congr {same : Key → Key → Bool} (sameness : IsSameness same) {key other : Key}
    (equal : same key other = true) (third : Key) : same key third = same other third := by
  rw [Bool.eq_iff_iff]
  exact ⟨sameness.trans (sameness.symm equal), sameness.trans equal⟩

theorem find?_assign {same : Key → Key → Bool} (sameness : IsSameness same) (entries : List (Key × Item))
    (key other : Key) (item : Item) :
    find? same (assign same entries key item) other =
      if same key other then some item else find? same entries other := by
  induction entries with
  | nil => rfl
  | cons entry rest ih =>
      obtain ⟨known, old⟩ := entry
      by_cases found : same known key = true
      · simp only [assign, found, if_true, find?, sameness.congr found other]
        split <;> rfl
      · have apart : same known other = true → same key other ≠ true := fun held equal =>
          found (sameness.trans held (sameness.symm equal))
        simp only [assign, found, Bool.false_eq_true, if_false, find?, ih]
        by_cases held : same known other = true
        · simp only [held, apart held, Bool.false_eq_true, if_true, if_false]
        · simp only [held, Bool.false_eq_true, if_false]

theorem assign_of_absent {same : Key → Key → Bool} {entries : List (Key × Item)} {key : Key} (item : Item)
    (absent : find? same entries key = none) :
    assign same entries key item = entries ++ [(key, item)] := by
  induction entries with
  | nil => rfl
  | cons entry rest ih =>
      obtain ⟨known, old⟩ := entry
      by_cases found : same known key = true
      · simp only [find?, found, if_true, reduceCtorEq] at absent
      · simp only [find?, found, Bool.false_eq_true, if_false] at absent
        simp only [assign, found, Bool.false_eq_true, if_false, ih absent, List.cons_append]

theorem mem_keys_iff [BEq Key] [LawfulBEq Key] (entries : List (Key × Item)) (key : Key) :
    key ∈ entries.map Prod.fst ↔ (find? (· == ·) entries key).isSome = true := by
  induction entries with
  | nil => simp [find?]
  | cons entry rest ih =>
      obtain ⟨known, item⟩ := entry
      by_cases found : known = key
      · simp [find?, found]
      · have apart : key ≠ known := fun same => found same.symm
        simp only [find?, beq_iff_eq, found, if_false, List.map_cons, List.mem_cons, apart, false_or, ih]

theorem nodup_assign [BEq Key] [LawfulBEq Key] {entries : List (Key × Item)}
    (distinct : (entries.map Prod.fst).Nodup) (key : Key) (item : Item) :
    ((assign (· == ·) entries key item).map Prod.fst).Nodup := by
  induction entries with
  | nil => exact List.nodup_cons.mpr ⟨List.not_mem_nil, .nil⟩
  | cons entry rest ih =>
      obtain ⟨known, old⟩ := entry
      obtain ⟨fresh, distinct'⟩ := List.nodup_cons.mp distinct
      by_cases same : known = key
      · rwa [assign, if_pos (beq_iff_eq.mpr same)]
      · rw [assign, if_neg (by simpa using same)]
        refine List.nodup_cons.mpr ⟨?_, ih distinct'⟩
        rw [mem_keys_iff, find?_assign isSameness_beq, if_neg (by simpa using Ne.symm same), ← mem_keys_iff]
        exact fresh

theorem nodup_assignAll [BEq Key] [LawfulBEq Key] {entries : List (Key × Item)}
    (distinct : (entries.map Prod.fst).Nodup) (added : List (Key × Item)) :
    ((assignAll (· == ·) entries added).map Prod.fst).Nodup := by
  induction added generalizing entries with
  | nil => exact distinct
  | cons entry rest ih => exact ih (nodup_assign distinct entry.1 entry.2)

end TextTemplate.Entries
