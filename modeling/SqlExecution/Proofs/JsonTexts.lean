import Mathlib.Data.List.TakeWhile
import SqlExecution.Json.Printer

/-! Printed JSON reads back as it was written: first its tokens, then the document that they make
up. A number ends where a character follows that no number holds, so what may follow is part of the
account of each piece. -/

namespace SqlExecution.Json

namespace LexState

/-- The characters are read through without fail. They yield the tokens, and reading goes on in the
next state with whatever follows. -/
def Reads (s : LexState) (cs : List Char) (ts : List Token) (next : LexState) : Prop :=
  ∀ rest, s.run (cs ++ rest) = (next.run rest).map (ts ++ ·)

variable {s t u : LexState} {c : Char} {cs ds : List Char} {ts us : List Token}

theorem Reads.nil (s : LexState) : s.Reads [] [] s := fun rest => by simp

theorem Reads.append (first : s.Reads cs ts t) (second : t.Reads ds us u) :
    s.Reads (cs ++ ds) (ts ++ us) u := by
  intro rest
  rw [List.append_assoc, first, second, Option.map_map]
  simp [Function.comp_def]

theorem Reads.of_step (stepped : s.step c = some (ts, t)) : s.Reads [c] ts t := by
  intro rest
  change (s.step c).bind _ = _
  rw [stepped]
  cases h : t.run rest <;> simp [h]

theorem Reads.silent (stepped : s.step c = some ([], t)) (later : t.Reads cs us u) :
    s.Reads (c :: cs) us u :=
  (Reads.of_step stepped).append later

theorem Reads.mark {mark : Token} (stepped : between.step c = some ([mark], between))
    (later : between.Reads cs ts between) : between.Reads (c :: cs) (mark :: ts) between :=
  (Reads.of_step stepped).append later

end LexState

/-- Nothing follows, or something that cannot go on a number. -/
def Ends (rest : List Char) : Prop := ∀ c ∈ rest.head?, isNumberChar c = false

theorem ends_nil : Ends [] := by simp [Ends]

theorem ends_cons {c : Char} (other : isNumberChar c = false) (rest : List Char) :
    Ends (c :: rest) := by simpa [Ends] using other

namespace StringPart

/-- A part of a text that no half of a surrogate pair has broken. -/
def whole (cs : List Char) : StringPart := ⟨cs, none, true⟩

theorem push_whole (cs : List Char) (c : Char) : (whole cs).push c = whole (c :: cs) := rfl

theorem token_whole (cs : List Char) :
    (whole cs).token = .string (some (String.ofList cs.reverse)) := rfl

theorem pushUnit_whole {n : Nat} (low : n < 0xD800) (cs : List Char) :
    (whole cs).pushUnit n = whole (Char.ofNat n :: cs) := by
  rw [pushUnit, if_neg (by omega), if_neg (by omega)]
  rfl

end StringPart

theorem hexValue?_hexDigit : ∀ n < 16, hexValue? (hexDigit n) = some n := by decide

namespace LexState

open StringPart

theorem step_hex (n : Nat) {left : Nat} (digit : n < 16) (more : 1 < left) (p : StringPart)
    (unit : Nat) :
    (hex p left unit).step (Json.hexDigit n) = some ([], hex p (left - 1) (16 * unit + n)) := by
  simp [step, hexValue?_hexDigit n digit, Nat.not_le.2 more]

theorem step_lastHex (n unit : Nat) (digit : n < 16) (low : 16 * unit + n < 0xD800)
    (cs : List Char) :
    (hex (whole cs) 1 unit).step (Json.hexDigit n) =
      some ([], text (whole (Char.ofNat (16 * unit + n) :: cs))) := by
  simp [step, hexValue?_hexDigit n digit, pushUnit_whole low]

theorem reads_control {c : Char} (low : c.toNat < 0x20) (cs : List Char) :
    Reads (text (whole cs))
      ['\\', 'u', '0', '0', Json.hexDigit (c.toNat / 16), Json.hexDigit (c.toNat % 16)] []
      (text (whole (c :: cs))) := by
  have opened : (text (whole cs)).step '\\' = some ([], escape (whole cs)) := rfl
  have numbered : (escape (whole cs)).step 'u' = some ([], hex (whole cs) 4 0) := rfl
  have first : (hex (whole cs) 4 0).step '0' = some ([], hex (whole cs) 3 0) :=
    step_hex 0 (by decide) (by decide) _ _
  have second : (hex (whole cs) 3 0).step '0' = some ([], hex (whole cs) 2 0) :=
    step_hex 0 (by decide) (by decide) _ _
  have third : (hex (whole cs) 2 0).step (Json.hexDigit (c.toNat / 16)) =
      some ([], hex (whole cs) 1 (16 * 0 + c.toNat / 16)) :=
    step_hex _ (by omega) (by decide) _ _
  have fourth := step_lastHex (c.toNat % 16) (16 * 0 + c.toNat / 16) (by omega) (by omega) cs
  have number : 16 * (16 * 0 + c.toNat / 16) + c.toNat % 16 = c.toNat := by omega
  rw [number, Char.ofNat_toNat] at fourth
  exact .silent opened <| .silent numbered <| .silent first <| .silent second <| .silent third <|
    .of_step fourth

theorem reads_escape (c : Char) (cs : List Char) :
    (text (whole cs)).Reads (Json.escape c) [] (text (whole (c :: cs))) := by
  have opened : (text (whole cs)).step '\\' = some ([], escape (whole cs)) := rfl
  have short {e d : Char} (meant : unescape? e = some d) (notUnit : e ≠ 'u') :
      (text (whole cs)).Reads ['\\', e] [] (text (whole (d :: cs))) := by
    refine .silent opened (.of_step ?_)
    simp [step, notUnit, meant, push_whole]
  unfold Json.escape
  split
  case h_8 other _ _ _ _ _ _ _ =>
    split
    case isTrue low => exact reads_control low cs
    case isFalse printed =>
      refine .of_step ?_
      simp_all [step, push_whole]
  all_goals exact short rfl (by decide)

theorem reads_escaped (s cs : List Char) :
    (text (whole cs)).Reads (s.flatMap Json.escape) [] (text (whole (s.reverse ++ cs))) := by
  induction s generalizing cs with
  | nil => exact .nil _
  | cons c s ih =>
    have rest := (reads_escape c cs).append (ih (c :: cs))
    simpa using rest

theorem reads_quote (s : String) : between.Reads (quote s) [.string (some s)] between := by
  have opened : between.step '"' = some ([], text (whole [])) := rfl
  have closed : (text (whole (s.toList.reverse ++ []))).step '"' =
      some ([.string (some s)], between) := by
    simp [step, token_whole]
  exact .silent opened ((reads_escaped s.toList []).append (.of_step closed))

theorem reads_word (c : Char) (cs : List Char) (token : Token) :
    (word (c :: cs) token).Reads (c :: cs) [token] between := by
  induction cs generalizing c with
  | nil => exact .of_step (by simp [step])
  | cons d ds ih => exact .silent (by simp [step]) (ih d)

theorem reads_null : between.Reads ['n', 'u', 'l', 'l'] [.null] between :=
  .silent rfl (reads_word 'u' ['l', 'l'] .null)

theorem reads_true : between.Reads ['t', 'r', 'u', 'e'] [.bool true] between :=
  .silent rfl (reads_word 'r' ['u', 'e'] (.bool true))

theorem reads_false : between.Reads ['f', 'a', 'l', 's', 'e'] [.bool false] between :=
  .silent rfl (reads_word 'a' ['l', 's', 'e'] (.bool false))

end LexState

namespace NumberText

/-- A whole number as it is printed. -/
def IsWhole (n : NumberText) : Prop := ∃ i, n = .ofInt i

theorem head_toDigits {n : Nat} (positive : 0 < n) :
    ∃ c cs, Nat.toDigits 10 n = c :: cs ∧ c ≠ '0' := by
  induction n using Nat.strongRecOn with
  | ind n ih =>
    rw [Nat.toDigits_eq_if (by decide)]
    split
    case isTrue small =>
      have digits : ∀ m < 10, 0 < m → m.digitChar ≠ '0' := by decide
      exact ⟨_, [], rfl, digits n small positive⟩
    case isFalse large =>
      obtain ⟨c, cs, split, notZero⟩ := ih (n / 10) (by omega) (by omega)
      exact ⟨c, cs ++ _, by rw [split]; rfl, notZero⟩

theorem wholeOk_toDigits (n : Nat) : wholeOk (Nat.toDigits 10 n) = true := by
  rcases Nat.eq_zero_or_pos n with rfl | positive
  · rfl
  · obtain ⟨c, cs, split, notZero⟩ := head_toDigits positive
    rw [split]
    unfold wholeOk
    split <;> simp_all

theorem isDigit_toDigits (n : Nat) : ∀ c ∈ Nat.toDigits 10 n, c.isDigit = true :=
  fun _ member => Nat.isDigit_of_mem_toDigits (by decide) (by decide) member

theorem chars_ofInt (i : Int) :
    (ofInt i).chars = (if i < 0 then ['-'] else []) ++ Nat.toDigits 10 i.natAbs := by
  simp [chars, ofInt, exponentChars]

theorem ofChars?_chars {n : NumberText} (isWhole : n.IsWhole) : ofChars? n.chars = some n := by
  obtain ⟨i, rfl⟩ := isWhole
  have digits := isDigit_toDigits i.natAbs
  have taken := List.takeWhile_eq_self_iff.2 digits
  have dropped := List.dropWhile_eq_nil_iff.2 digits
  rw [chars_ofInt]
  by_cases negative : i < 0
  · simp [ofChars?, negative, taken, dropped, wholeOk_toDigits, readExponent, ofInt]
  · have some : Nat.toDigits 10 i.natAbs ≠ [] := Nat.toDigits_ne_nil
    obtain ⟨c, cs, split⟩ := List.exists_cons_of_ne_nil some
    have unsigned : c ≠ '-' := by
      rintro rfl
      exact absurd (digits '-' (by simp [split])) (by decide)
    rw [if_neg negative, List.nil_append]
    rw [split] at taken dropped digits ⊢
    have ok := split ▸ wholeOk_toDigits i.natAbs
    simp [ofChars?, unsigned, negative, taken, dropped, ok, readExponent, ofInt, split]

theorem isNumberChar_chars {n : NumberText} (isWhole : n.IsWhole) {c : Char}
    (member : c ∈ n.chars) : isNumberChar c = true := by
  obtain ⟨i, rfl⟩ := isWhole
  rw [chars_ofInt] at member
  rcases List.mem_append.1 member with sign | digit
  · split at sign
    · obtain rfl := List.mem_singleton.1 sign
      rfl
    · cases sign
  · simp [isNumberChar, isDigit_toDigits _ c digit]

theorem exists_chars_eq_cons {n : NumberText} (isWhole : n.IsWhole) :
    ∃ c cs, n.chars = c :: cs ∧ (c.isDigit = true ∨ c = '-') := by
  obtain ⟨i, rfl⟩ := isWhole
  have some : Nat.toDigits 10 i.natAbs ≠ [] := Nat.toDigits_ne_nil
  obtain ⟨c, cs, split⟩ := List.exists_cons_of_ne_nil some
  rw [chars_ofInt, split]
  by_cases negative : i < 0
  · exact ⟨'-', c :: cs, by rw [if_pos negative]; rfl, .inr rfl⟩
  · refine ⟨c, cs, by rw [if_neg negative]; rfl, .inl (isDigit_toDigits i.natAbs c ?_)⟩
    rw [split]
    exact List.mem_cons_self ..

end NumberText

namespace LexState

theorem start_number {c : Char} (first : c.isDigit = true ∨ c = '-') :
    start c = some ([], number [c]) := by
  rcases first with digit | rfl
  · unfold start
    have notBlank : isBlank c = false := by
      simp only [isBlank, Bool.or_eq_false_iff, beq_eq_false_iff_ne]
      refine ⟨⟨⟨?_, ?_⟩, ?_⟩, ?_⟩ <;> rintro rfl <;> exact absurd digit (by decide)
    rw [notBlank, if_neg Bool.false_ne_true]
    split <;> simp_all
  · rfl

theorem reads_numberChars {cs : List Char} (all : ∀ c ∈ cs, isNumberChar c = true)
    (before : List Char) : (number before).Reads cs [] (number (cs.reverse ++ before)) := by
  induction cs generalizing before with
  | nil => exact .nil _
  | cons c cs ih =>
    obtain ⟨here, later⟩ := List.forall_mem_cons.1 all
    have rest := ih later (c :: before)
    rw [List.reverse_cons, List.append_assoc]
    exact .silent (by simp [step, here]) rest

theorem run_number_of_ends {n : NumberText} {before rest : List Char}
    (read : NumberText.ofChars? before.reverse = some n) (ends : Ends rest) :
    (number before).run rest = (between.run rest).map (.number n :: ·) := by
  cases rest with
  | nil => simp [run, finish, read]
  | cons c rest =>
    have other : isNumberChar c = false := ends c rfl
    simp only [run, step, other, read, Bool.false_eq_true, if_false]
    cases start c with
    | none => rfl
    | some taken =>
      simp only [Option.bind_eq_bind, Option.bind_some]
      cases taken.2.run rest <;> rfl

end LexState

open LexState

/-- The characters are those of the tokens, wherever nothing follows that could go on the last. -/
def Spells (cs : List Char) (ts : List Token) : Prop :=
  ∀ rest, Ends rest → between.run (cs ++ rest) = (between.run rest).map (ts ++ ·)

theorem LexState.Reads.spells {cs : List Char} {ts : List Token}
    (reads : between.Reads cs ts between) : Spells cs ts := fun rest _ => reads rest

theorem Spells.thenReads {cs ds : List Char} {ts us : List Token} (first : Spells cs ts)
    (ends : ∀ rest, Ends (ds ++ rest)) (later : between.Reads ds us between) :
    between.Reads (cs ++ ds) (ts ++ us) between := by
  intro rest
  rw [List.append_assoc, first _ (ends rest), later, Option.map_map]
  simp [Function.comp_def]

theorem NumberText.IsWhole.spells {n : NumberText} (isWhole : n.IsWhole) :
    Spells n.chars [.number n] := by
  intro rest ends
  obtain ⟨c, cs, split, first⟩ := exists_chars_eq_cons isWhole
  have chars : ∀ d ∈ cs, isNumberChar d = true := fun d member =>
    isNumberChar_chars isWhole (split ▸ List.mem_cons_of_mem c member)
  have whole : between.Reads (c :: cs) [] (.number (cs.reverse ++ [c])) :=
    .silent (start_number first) (reads_numberChars chars [c])
  have read : NumberText.ofChars? (cs.reverse ++ [c]).reverse = some n := by
    rw [← ofChars?_chars isWhole, split]
    simp
  rw [split, whole, run_number_of_ends read ends]
  cases between.run rest <;> rfl

namespace Document

mutual

/-- Every string is a text and every number whole. -/
def IsPlain : Document → Prop
  | .null => True
  | .bool _ => True
  | .number n => n.IsWhole
  | .string content => content.isSome
  | .array items => ItemsArePlain items
  | .object members => MembersArePlain members

def ItemsArePlain : List Document → Prop
  | [] => True
  | item :: rest => item.IsPlain ∧ ItemsArePlain rest

def MembersArePlain : List (Option String × Document) → Prop
  | [] => True
  | (name, value) :: rest => name.isSome ∧ value.IsPlain ∧ MembersArePlain rest

end

mutual

/-- The tokens that a document is made of. -/
def tokens : Document → List Token
  | .null => [.null]
  | .bool b => [.bool b]
  | .number n => [.number n]
  | .string content => [.string content]
  | .array [] => [.openArray, .closeArray]
  | .array (item :: rest) => .openArray :: (item.tokens ++ itemTokens rest)
  | .object [] => [.openObject, .closeObject]
  | .object ((name, value) :: rest) =>
    .openObject :: .string name :: .colon :: (value.tokens ++ memberTokens rest)

def itemTokens : List Document → List Token
  | [] => [.closeArray]
  | item :: rest => .comma :: (item.tokens ++ itemTokens rest)

def memberTokens : List (Option String × Document) → List Token
  | [] => [.closeObject]
  | (name, value) :: rest =>
    .comma :: .string name :: .colon :: (value.tokens ++ memberTokens rest)

end

theorem ends_restItems (items : List Document) (rest : List Char) :
    Ends (restItems items ++ rest) := by
  cases items <;> exact ends_cons rfl _

theorem ends_restMembers (members : List (Option String × Document)) (rest : List Char) :
    Ends (restMembers members ++ rest) := by
  rcases members with _ | ⟨⟨name, value⟩, more⟩ <;> exact ends_cons rfl _

theorem reads_string {content : Option String} (isText : content.isSome) :
    between.Reads (stringChars content) [.string content] between := by
  obtain ⟨s, rfl⟩ := Option.isSome_iff_exists.1 isText
  exact reads_quote s

theorem reads_name {name : Option String} (isText : name.isSome) {cs : List Char} {ts : List Token}
    (value : between.Reads cs ts between) :
    between.Reads (stringChars name ++ ':' :: cs) (.string name :: .colon :: ts) between :=
  (reads_string isText).append (.mark rfl value)

mutual

theorem spells : (d : Document) → d.IsPlain → Spells d.chars d.tokens
  | .null, _ => reads_null.spells
  | .bool false, _ => reads_false.spells
  | .bool true, _ => reads_true.spells
  | .number n, plain => NumberText.IsWhole.spells plain
  | .string content, plain => (reads_string plain).spells
  | .array [], _ => (Reads.mark rfl (.mark rfl (.nil _))).spells
  | .array (item :: rest), plain => by
    obtain ⟨here, later⟩ := plain
    exact (Reads.mark rfl
      ((spells item here).thenReads (ends_restItems rest) (reads_restItems rest later))).spells
  | .object [], _ => (Reads.mark rfl (.mark rfl (.nil _))).spells
  | .object ((name, value) :: rest), plain => by
    obtain ⟨named, here, later⟩ := plain
    have tail := reads_restMembers rest later
    exact (Reads.mark rfl (reads_name named
      ((spells value here).thenReads (ends_restMembers rest) tail))).spells

theorem reads_restItems : (items : List Document) → ItemsArePlain items →
    between.Reads (restItems items) (itemTokens items) between
  | [], _ => .mark rfl (.nil _)
  | item :: rest, plain => .mark rfl <|
    (spells item plain.1).thenReads (ends_restItems rest) (reads_restItems rest plain.2)

theorem reads_restMembers : (members : List (Option String × Document)) → MembersArePlain members →
    between.Reads (restMembers members) (memberTokens members) between
  | [], _ => .mark rfl (.nil _)
  | (_, value) :: rest, plain => .mark rfl <| reads_name plain.1 <|
    (spells value plain.2.1).thenReads (ends_restMembers rest) (reads_restMembers rest plain.2.2)

end

open Reading

mutual

/-- The tokens of a document in the place of a value amount to handing it to what contains it. -/
theorem run_tokens : (d : Document) → (frames : List Frame) → (mayClose : Bool) →
    (rest : List Token) →
    run ⟨frames, .value mayClose⟩ (d.tokens ++ rest) = (deliver d frames).bind (run · rest)
  | .null, _, _, _ => rfl
  | .bool _, _, _, _ => rfl
  | .number _, _, _, _ => rfl
  | .string _, _, _, _ => rfl
  | .array [], _, _, _ => rfl
  | .array (item :: items), frames, mayClose, rest => by
    have opened : run ⟨frames, .value mayClose⟩ ((Document.array (item :: items)).tokens ++ rest) =
        run ⟨.items [] :: frames, .value true⟩ (item.tokens ++ (itemTokens items ++ rest)) := by
      rw [← List.append_assoc]
      rfl
    rw [opened, run_tokens item]
    exact run_itemTokens items [item] frames rest
  | .object [], _, _, _ => rfl
  | .object ((name, value) :: members), frames, mayClose, rest => by
    have opened : run ⟨frames, .value mayClose⟩
          ((Document.object ((name, value) :: members)).tokens ++ rest) =
        run ⟨.value [] name :: frames, .value false⟩
          (value.tokens ++ (memberTokens members ++ rest)) := by
      rw [← List.append_assoc]
      rfl
    rw [opened, run_tokens value]
    exact run_memberTokens members [(name, value)] frames rest

theorem run_itemTokens : (items done : List Document) → (frames : List Frame) →
    (rest : List Token) →
    run ⟨.items done :: frames, .next⟩ (itemTokens items ++ rest) =
      (deliver (.array (done.reverse ++ items)) frames).bind (run · rest)
  | [], done, frames, rest => by
    rw [List.append_nil]
    rfl
  | item :: items, done, frames, rest => by
    have next : run ⟨.items done :: frames, .next⟩ (itemTokens (item :: items) ++ rest) =
        run ⟨.items done :: frames, .value false⟩ (item.tokens ++ (itemTokens items ++ rest)) := by
      rw [← List.append_assoc]
      rfl
    rw [next, run_tokens item]
    have later := run_itemTokens items (item :: done) frames rest
    rw [List.reverse_cons, List.append_assoc] at later
    exact later

theorem run_memberTokens : (members done : List (Option String × Document)) →
    (frames : List Frame) → (rest : List Token) →
    run ⟨.members done :: frames, .next⟩ (memberTokens members ++ rest) =
      (deliver (.object (done.reverse ++ members)) frames).bind (run · rest)
  | [], done, frames, rest => by
    rw [List.append_nil]
    rfl
  | (name, value) :: members, done, frames, rest => by
    have next : run ⟨.members done :: frames, .next⟩
          (memberTokens ((name, value) :: members) ++ rest) =
        run ⟨.value done name :: frames, .value false⟩
          (value.tokens ++ (memberTokens members ++ rest)) := by
      rw [← List.append_assoc]
      rfl
    rw [next, run_tokens value]
    have later := run_memberTokens members ((name, value) :: done) frames rest
    rw [List.reverse_cons, List.append_assoc] at later
    exact later

end

theorem tokens?_text {d : Document} (plain : d.IsPlain) : tokens? d.text = some d.tokens := by
  have spelled := spells d plain [] ends_nil
  rw [List.append_nil] at spelled
  rw [tokens?, text, String.toList_ofList, spelled]
  simp [LexState.run, LexState.finish]

theorem read?_text {d : Document} (plain : d.IsPlain) : read? d.text = some d := by
  have placed := run_tokens d [] false []
  rw [List.append_nil] at placed
  rw [read?, tokens?_text plain]
  exact placed

end Document

end SqlExecution.Json
