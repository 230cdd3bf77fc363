/-! Things by name: pairs in the order of their names, each name once. -/

namespace SqlExecution.Named

variable {α : Type}

/-- Put something under a name, in the place of what is there. -/
def insert (name : String) (a : α) : List (String × α) → List (String × α)
  | [] => [(name, a)]
  | (k, b) :: rest =>
    if name < k then (name, a) :: (k, b) :: rest
    else if name = k then (name, a) :: rest
    else (k, b) :: insert name a rest

def find? (name : String) (entries : List (String × α)) : Option α :=
  (entries.find? (·.1 == name)).map (·.2)

def erase (name : String) (entries : List (String × α)) : List (String × α) :=
  entries.filter (·.1 != name)

theorem find?_insert_same (name : String) (a : α) (entries : List (String × α)) :
    find? name (insert name a entries) = some a := by
  induction entries with
  | nil => simp [insert, find?]
  | cons e rest ih =>
    unfold insert
    split
    · simp [find?]
    · split
      · simp [find?]
      · rename_i distinct
        simpa [find?, Ne.symm distinct] using ih

theorem find?_insert_of_ne {name other : String} (distinct : other ≠ name) (a : α)
    (entries : List (String × α)) : find? other (insert name a entries) = find? other entries := by
  induction entries with
  | nil => simp [insert, find?, Ne.symm distinct]
  | cons e rest ih =>
    unfold insert
    split
    · simp [find?, Ne.symm distinct]
    · split
      · rename_i same
        simp [find?, ← same, Ne.symm distinct]
      · by_cases head : e.1 = other
        · simp [find?, head]
        · simpa [find?, head] using ih

theorem find?_erase_same (name : String) (entries : List (String × α)) :
    find? name (erase name entries) = none := by
  simp [find?, erase]

theorem find?_erase_of_ne {name other : String} (distinct : other ≠ name)
    (entries : List (String × α)) : find? other (erase name entries) = find? other entries := by
  induction entries with
  | nil => rfl
  | cons e rest ih =>
    by_cases head : e.1 = other
    · simp [find?, erase, head, distinct]
    · by_cases gone : e.1 = name <;> simp_all [find?, erase]

def Sorted (entries : List (String × α)) : Prop := entries.Pairwise (·.1 < ·.1)

theorem sorted_nil : Sorted ([] : List (String × α)) := .nil

theorem mem_insert {name : String} {a : α} {entries : List (String × α)} {e : String × α}
    (member : e ∈ insert name a entries) : e = (name, a) ∨ e ∈ entries := by
  induction entries with
  | nil => simpa [insert] using member
  | cons head rest ih =>
    unfold insert at member
    split at member
    · simpa using member
    · split at member
      · rcases List.mem_cons.1 member with same | later
        · exact .inl same
        · exact .inr (List.mem_cons_of_mem _ later)
      · rcases List.mem_cons.1 member with same | later
        · exact .inr (same ▸ List.mem_cons_self ..)
        · exact (ih later).imp id (List.mem_cons_of_mem _)

theorem mem_of_find? {name : String} {a : α} {entries : List (String × α)}
    (found : find? name entries = some a) : (name, a) ∈ entries := by
  unfold find? at found
  obtain ⟨e, first, rfl⟩ := Option.map_eq_some_iff.1 found
  have same : e.1 = name := by simpa using List.find?_some first
  rw [← same]
  exact List.mem_of_find?_eq_some first

theorem find?_of_lt {name : String} {entries : List (String × α)}
    (before : ∀ e ∈ entries, name < e.1) : find? name entries = none := by
  have other : entries.find? (·.1 == name) = none := by
    refine List.find?_eq_none.2 fun e member => ?_
    have distinct : e.1 ≠ name := fun same => String.lt_irrefl name (same ▸ before e member)
    simpa using distinct
  rw [find?, other]
  rfl

theorem sorted_insert {entries : List (String × α)} (sorted : Sorted entries) (name : String)
    (a : α) : Sorted (insert name a entries) := by
  induction entries with
  | nil => exact .cons (by simp) .nil
  | cons head rest ih =>
    obtain ⟨before, rest_sorted⟩ := List.pairwise_cons.1 sorted
    unfold insert
    split
    · rename_i first
      refine .cons (fun e member => ?_) sorted
      rcases List.mem_cons.1 member with rfl | later
      · exact first
      · exact String.lt_trans first (before e later)
    · split
      · rename_i same
        exact .cons (fun e member => same ▸ before e member) rest_sorted
      · rename_i notFirst distinct
        have after : head.1 < name :=
          Std.lt_of_le_of_ne (String.not_lt.1 notFirst) (Ne.symm distinct)
        refine .cons (fun e member => ?_) (ih rest_sorted)
        rcases mem_insert member with rfl | old
        · exact after
        · exact before e old

theorem sorted_erase {entries : List (String × α)} (sorted : Sorted entries) (name : String) :
    Sorted (erase name entries) := sorted.filter _

theorem find?_cons_same (e : String × α) (rest : List (String × α)) :
    find? e.1 (e :: rest) = some e.2 := by simp [find?]

theorem find?_cons_of_ne {name : String} {e : String × α} (distinct : e.1 ≠ name)
    (rest : List (String × α)) : find? name (e :: rest) = find? name rest := by
  simp [find?, distinct]

theorem find?_of_mem {entries : List (String × α)} (sorted : Sorted entries) {e : String × α}
    (member : e ∈ entries) : find? e.1 entries = some e.2 := by
  induction entries with
  | nil => cases member
  | cons head rest ih =>
    obtain ⟨before, rest_sorted⟩ := List.pairwise_cons.1 sorted
    rcases List.mem_cons.1 member with rfl | later
    · exact find?_cons_same e rest
    · have distinct : head.1 ≠ e.1 := fun same =>
        String.lt_irrefl e.1 (same ▸ before e later)
      rw [find?_cons_of_ne distinct]
      exact ih rest_sorted later

/-- What is put under a name counts in the place of what was there. -/
theorem countP_insert {entries : List (String × α)} (sorted : Sorted entries) (p : α → Bool)
    (name : String) (a : α) :
    (insert name a entries).countP (p ·.2) + ((find? name entries).any p).toNat =
      entries.countP (p ·.2) + (p a).toNat := by
  induction entries with
  | nil => cases h : p a <;> simp [insert, find?, h]
  | cons head rest ih =>
    obtain ⟨before, rest_sorted⟩ := List.pairwise_cons.1 sorted
    unfold insert
    split
    · rename_i first
      have absent : find? name (head :: rest) = none := find?_of_lt fun e member => by
        rcases List.mem_cons.1 member with rfl | later
        · exact first
        · exact String.lt_trans first (before e later)
      rw [absent, List.countP_cons]
      cases p a <;> simp
    · split
      · rename_i same
        rw [same, find?_cons_same, List.countP_cons, List.countP_cons]
        cases p a <;> cases h : p head.2 <;> simp [h]
      · rename_i distinct
        have rest_counts := ih rest_sorted
        rw [find?_cons_of_ne (Ne.symm distinct), List.countP_cons, List.countP_cons]
        dsimp only
        omega

theorem countP_erase {entries : List (String × α)} (sorted : Sorted entries) (p : α → Bool)
    (name : String) :
    (erase name entries).countP (p ·.2) + ((find? name entries).any p).toNat =
      entries.countP (p ·.2) := by
  induction entries with
  | nil => rfl
  | cons head rest ih =>
    obtain ⟨before, rest_sorted⟩ := List.pairwise_cons.1 sorted
    have rest_counts := ih rest_sorted
    by_cases same : head.1 = name
    · subst same
      have absent : find? head.1 rest = none := find?_of_lt before
      have gone : erase head.1 (head :: rest) = erase head.1 rest := by simp [erase]
      rw [absent] at rest_counts
      rw [gone, find?_cons_same, List.countP_cons]
      cases h : p head.2 <;> simp_all
    · have kept : erase name (head :: rest) = head :: erase name rest := by simp [erase, same]
      rw [kept, find?_cons_of_ne same, List.countP_cons, List.countP_cons]
      omega

end SqlExecution.Named
