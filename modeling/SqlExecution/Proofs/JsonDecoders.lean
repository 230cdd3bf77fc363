import SqlExecution.Json.Decode
import SqlExecution.Proofs.JsonTexts

/-! What is read from documents. A document of the expected kind is read wherever as many containers
may be opened as it holds one inside the other, and nowhere else. JSON values whose numbers are
whole come back from their own documents. -/

namespace SqlExecution.Named

variable {α : Type}

theorem insert_last {name : String} {entries : List (String × α)}
    (last : ∀ e ∈ entries, e.1 < name) (a : α) :
    insert name a entries = entries ++ [(name, a)] := by
  induction entries with
  | nil => rfl
  | cons e rest ih =>
    obtain ⟨before, later⟩ := List.forall_mem_cons.1 last
    have notFirst : ¬ name < e.1 := String.not_lt.2 (Std.le_of_lt before)
    have distinct : name ≠ e.1 := fun same => String.lt_irrefl name (by rwa [← same] at before)
    rw [insert, if_neg notFirst, if_neg distinct, ih later]
    rfl

theorem foldl_insert_of_sorted {entries more : List (String × α)}
    (sorted : Sorted (entries ++ more)) :
    more.foldl (fun es e => insert e.1 e.2 es) entries = entries ++ more := by
  induction more generalizing entries with
  | nil => simp
  | cons e rest ih =>
    have last : ∀ before ∈ entries, before.1 < e.1 := fun before member =>
      (List.pairwise_append.1 sorted).2.2 before member e (List.mem_cons_self ..)
    rw [List.foldl_cons, insert_last last, ih (by simpa using sorted), List.append_assoc]
    rfl

end SqlExecution.Named

namespace SqlExecution.Json

/-- Whole numbers of sixty-four bits, signed or not. -/
def FitsWord (n : Int) : Prop := -0x8000000000000000 ≤ n ∧ n ≤ maxUnsigned

instance (n : Int) : Decidable (FitsWord n) := inferInstanceAs (Decidable (_ ∧ _))

theorem FitsWord.of_between {low high n : Int} (lowFits : FitsWord low) (highFits : FitsWord high)
    (between : low ≤ n ∧ n ≤ high) : FitsWord n :=
  ⟨Int.le_trans lowFits.1 between.1, Int.le_trans between.2 highFits.2⟩

theorem ofDigitChars_le (ds : List Char) (acc : Nat) : acc ≤ Nat.ofDigitChars 10 ds acc := by
  rw [Nat.ofDigitChars_eq_ofDigitChars_zero]
  have grows : 1 * acc ≤ 10 ^ ds.length * acc :=
    Nat.mul_le_mul_right _ (Nat.one_le_pow _ _ (by decide))
  omega

theorem fitting_of_le {ds : List Char} {acc : Nat}
    (fits : Nat.ofDigitChars 10 ds acc ≤ maxUnsigned) :
    fitting acc ds = (Nat.ofDigitChars 10 ds acc, []) := by
  induction ds generalizing acc with
  | nil => simp [fitting]
  | cons c ds ih =>
    rw [Nat.ofDigitChars_cons] at fits ⊢
    have within := Nat.le_trans (ofDigitChars_le ds _) fits
    rw [fitting, if_neg (Nat.not_lt.2 within)]
    exact ih fits

theorem NumberText.value?_ofInt {n : Int} (fits : FitsWord n) :
    (ofInt n).value? = some (.integer n) := by
  obtain ⟨low, high⟩ := fits
  have digits : Nat.ofDigitChars 10 (Nat.toDigits 10 n.natAbs) 0 = n.natAbs :=
    Nat.ofDigitChars_ten_toDigits
  have unsigned : n.natAbs ≤ maxUnsigned := by
    unfold maxUnsigned UInt64.size at *
    omega
  have whole : fitting 0 (Nat.toDigits 10 n.natAbs) = (n.natAbs, []) := by
    rw [fitting_of_le (by rwa [digits]), digits]
  by_cases negative : n < 0
  · have signed : 0 < n.natAbs ∧ n.natAbs ≤ 0x8000000000000000 := by omega
    have value : -(n.natAbs : Int) = n := by omega
    simp only [value?, ofInt, whole, negative, List.isEmpty_nil, Option.isNone_none, Bool.and_true,
      if_true, decide_true, Bool.not_true, Bool.false_eq_true, if_false, if_pos signed, value]
  · have value : (n.natAbs : Int) = n := by omega
    simp only [value?, ofInt, whole, negative, List.isEmpty_nil, Option.isNone_none, Bool.and_true,
      if_true, decide_false, Bool.not_false, value]

namespace Document

mutual

/-- How many containers are open at the deepest place. -/
def nesting : Document → Nat
  | .array items => itemsNesting items + 1
  | .object members => membersNesting members + 1
  | _ => 0

def itemsNesting : List Document → Nat
  | [] => 0
  | item :: rest => max item.nesting (itemsNesting rest)

def membersNesting : List (Option String × Document) → Nat
  | [] => 0
  | (_, value) :: rest => max value.nesting (membersNesting rest)

end

end Document

namespace Decoder

variable {α β : Type} {d : Decoder α} {doc : Document} {a : α}

/-- The document is read as this just where as many containers may be opened as it needs. -/
def Reads (d : Decoder α) (doc : Document) (a : α) : Prop :=
  ∀ room, d room doc = if doc.nesting ≤ room then some a else none

theorem Reads.flat (reads : d.Reads doc a) (flat : doc.nesting = 0) (room : Nat) :
    d room doc = some a := by
  rw [reads, flat, if_pos (Nat.zero_le room)]

theorem Reads.map (reads : d.Reads doc a) (f : α → β) : (d.map f).Reads doc (f a) := by
  intro room
  rw [Decoder.map, reads]
  split <;> rfl

theorem Reads.filterMap (reads : d.Reads doc a) {f : α → Option β} {b : β} (kept : f a = some b) :
    (d.filterMap f).Reads doc b := by
  intro room
  rw [Decoder.filterMap, reads]
  split
  · exact kept
  · rfl

theorem reads_string (s : String) : Decoder.string.Reads (.ofString s) s := fun _ => by
  simp [Document.ofString, Document.nesting, Decoder.string]

theorem reads_bool (b : Bool) : Decoder.bool.Reads (.bool b) b := fun _ => by
  simp [Document.nesting, Decoder.bool]

theorem reads_int {low high n : Int} (lowFits : FitsWord low) (highFits : FitsWord high)
    (between : low ≤ n ∧ n ≤ high) : (Decoder.int low high).Reads (.ofInt n) n := fun _ => by
  have value := NumberText.value?_ofInt (lowFits.of_between highFits between)
  simp [Document.ofInt, Document.nesting, Decoder.int, Decoder.number, value, between]

theorem reads_nat {high n : Nat} (highFits : FitsWord high) (within : n ≤ high) :
    (Decoder.nat high).Reads (.ofInt n) n :=
  (reads_int (by decide) highFits (by omega)).map Int.toNat

theorem both_within {γ : Type} (m n room : Nat) (a : α) (b : β) (f : α → β → γ) :
    ((if m ≤ room then some a else none).bind fun a =>
        (if n ≤ room then some b else none).bind fun b => some (f a b)) =
      if max m n ≤ room then some (f a b) else none := by
  simp only [Nat.max_le]
  by_cases first : m ≤ room <;> by_cases second : n ≤ room <;> simp [first, second]

theorem one_within {γ : Type} (n room : Nat) (a : α) (f : α → γ) :
    (match room with
      | 0 => none
      | room + 1 => (if n ≤ room then some a else none).map f) =
      if n + 1 ≤ room then some (f a) else none := by
  cases room with
  | zero => simp
  | succ room => by_cases within : n ≤ room <;> simp [within]

theorem Reads.list {xs : List β} {f : β → Document} {g : β → α}
    (reads : ∀ x ∈ xs, d.Reads (f x) (g x)) : d.list.Reads (.array (xs.map f)) (xs.map g) := by
  have each (room : Nat) : (xs.map f).mapM (d room) =
      if Document.itemsNesting (xs.map f) ≤ room then some (xs.map g) else none := by
    induction xs with
    | nil => simp [Document.itemsNesting]
    | cons x xs ih =>
      obtain ⟨here, later⟩ := List.forall_mem_cons.1 reads
      rw [List.map_cons, List.mapM_cons, here room, ih later]
      exact both_within _ _ room _ _ (· :: ·)
  intro room
  cases room with
  | zero => simp [Decoder.list, Decoder.items, Document.nesting]
  | succ room =>
    simp [Decoder.list, Decoder.items, Document.nesting, each]

theorem reads_choice {named : String → Option α} {s : String} (known : named s = some a) :
    (Decoder.choice named).Reads (.ofString s) a := fun _ => by
  simp [Document.ofString, Document.nesting, Decoder.choice, known]

theorem find?_of_nodup {members : List (String × Document)} (distinct : (members.map (·.1)).Nodup)
    {m : String × Document} (member : m ∈ members) : members.find? (·.1 == m.1) = some m := by
  induction members with
  | nil => cases member
  | cons first rest ih =>
    obtain ⟨fresh, rest_distinct⟩ := List.nodup_cons.1 distinct
    rcases List.mem_cons.1 member with rfl | later
    · simp
    · have other : first.1 ≠ m.1 := fun same =>
        fresh (List.mem_map.2 ⟨m, later, same.symm⟩)
      rw [List.find?_cons_of_neg (by simpa using other)]
      exact ih rest_distinct later

theorem mapM_names (members : List (String × Document)) :
    (members.map fun m => (some m.1, m.2)).mapM
      (fun m : Option String × Document => m.1.map (·, m.2)) = some members := by
  induction members with
  | nil => rfl
  | cons m rest ih => simp [ih]

theorem record_ofMembers {names : List String} {members : List (String × Document)}
    (distinct : names.Nodup) (listed : members.map (·.1) = names) (mayBeShort : Bool) (room : Nat) :
    record names mayBeShort (room + 1) (.ofMembers members) =
      some (room, members.map fun m => some m.2) := by
  subst listed
  have known : (members.filter fun m => (members.map (·.1)).contains m.1) = members :=
    List.filter_eq_self.2 fun m member =>
      List.contains_iff_mem.2 (List.mem_map_of_mem member)
  have fields : ((members.map (·.1)).map fun name => (members.find? (·.1 == name)).map (·.2)) =
      members.map fun m => some m.2 := by
    rw [List.map_map]
    refine List.map_congr_left fun m member => ?_
    simp [find?_of_nodup distinct member]
  rw [Document.ofMembers, record, mapM_names]
  simp only [Option.bind_eq_bind, Option.bind_some, known, if_pos distinct, fields]

/-- What is printed is read, unless it nests too deep for any text. -/
theorem Reads.run (reads : d.Reads doc a) (plain : doc.IsPlain) :
    d.run doc.text = if doc.nesting ≤ nestingLimit then some a else none := by
  rw [Decoder.run, Document.read?_text plain]
  exact reads nestingLimit

end Decoder

mutual

/-- Every number is whole and fits a word, and the members of an object are in the order of their
names, each name once. -/
def Exact : Json → Prop
  | .number (.integer n) => FitsWord n
  | .number (.real _) => False
  | .array items => ItemsExact items
  | .object members => Named.Sorted members ∧ MembersExact members
  | _ => True

def ItemsExact : List Json → Prop
  | [] => True
  | item :: rest => item.Exact ∧ ItemsExact rest

def MembersExact : List (String × Json) → Prop
  | [] => True
  | (_, value) :: rest => value.Exact ∧ MembersExact rest

end

theorem ofMembers_of_sorted {members : List (String × Json)} (sorted : Named.Sorted members) :
    ofMembers members = .object members :=
  have kept : Named.Sorted ([] ++ members) := sorted
  congrArg Json.object (Named.foldl_insert_of_sorted kept)

mutual

theorem plain_toDocument : (j : Json) → j.Exact → j.toDocument.IsPlain
  | .null, _ => trivial
  | .bool _, _ => trivial
  | .number (.integer n), _ => ⟨n, rfl⟩
  | .number (.real _), exact => False.elim exact
  | .string _, _ => rfl
  | .array items, exact => plain_itemsToDocument items exact
  | .object members, exact => plain_membersToDocument members exact.2

theorem plain_itemsToDocument : (items : List Json) → ItemsExact items →
    Document.ItemsArePlain (itemsToDocument items)
  | [], _ => trivial
  | item :: rest, exact => ⟨plain_toDocument item exact.1, plain_itemsToDocument rest exact.2⟩

theorem plain_membersToDocument : (members : List (String × Json)) → MembersExact members →
    Document.MembersArePlain (membersToDocument members)
  | [], _ => trivial
  | (_, value) :: rest, exact =>
    ⟨rfl, plain_toDocument value exact.1, plain_membersToDocument rest exact.2⟩

end

mutual

theorem reads_toDocument : (j : Json) → j.Exact → Decoder.json.Reads j.toDocument j
  | .null, _, _ => by simp [toDocument, Document.nesting, Decoder.json, Document.toJson?]
  | .bool _, _, _ => by simp [toDocument, Document.nesting, Decoder.json, Document.toJson?]
  | .number (.integer n), exact, _ => by
    have value := NumberText.value?_ofInt exact
    simp [toDocument, JsonNumber.toDocument, Document.ofInt, Document.nesting, Decoder.json,
      Document.toJson?, value]
  | .number (.real _), exact, _ => False.elim exact
  | .string _, _, _ => by
    simp [toDocument, Document.ofString, Document.nesting, Decoder.json, Document.toJson?]
  | .array items, exact, room => by
    change _ = if Document.itemsNesting (itemsToDocument items) + 1 ≤ room then _ else none
    rw [← Decoder.one_within _ room items Json.array]
    cases room with
    | zero => rfl
    | succ room => exact congrArg (·.map Json.array) (reads_itemsToDocument items exact room)
  | .object members, exact, room => by
    change _ = if Document.membersNesting (membersToDocument members) + 1 ≤ room then _ else none
    have whole := Decoder.one_within (Document.membersNesting (membersToDocument members)) room
      members ofMembers
    rw [ofMembers_of_sorted exact.1] at whole
    rw [← whole]
    cases room with
    | zero => rfl
    | succ room => exact congrArg (·.map ofMembers) (reads_membersToDocument members exact.2 room)

theorem reads_itemsToDocument : (items : List Json) → ItemsExact items → (room : Nat) →
    Document.itemsToJson? room (itemsToDocument items) =
      if Document.itemsNesting (itemsToDocument items) ≤ room then some items else none
  | [], _, _ => by simp [itemsToDocument, Document.itemsNesting, Document.itemsToJson?]
  | item :: rest, exact, room => by
    have here : item.toDocument.toJson? room = _ := reads_toDocument item exact.1 room
    have later := reads_itemsToDocument rest exact.2 room
    rw [itemsToDocument, Document.itemsToJson?, here, later]
    exact Decoder.both_within _ _ room item rest (· :: ·)

theorem reads_membersToDocument : (members : List (String × Json)) → MembersExact members →
    (room : Nat) →
    Document.membersToJson? room (membersToDocument members) =
      if Document.membersNesting (membersToDocument members) ≤ room then some members else none
  | [], _, _ => by simp [membersToDocument, Document.membersNesting, Document.membersToJson?]
  | (name, value) :: rest, exact, room => by
    have here : value.toDocument.toJson? room = _ := reads_toDocument value exact.1 room
    have later := reads_membersToDocument rest exact.2 room
    rw [membersToDocument, Document.membersToJson?, here, later]
    exact Decoder.both_within _ _ room value rest fun value rest => (name, value) :: rest

end

end SqlExecution.Json
