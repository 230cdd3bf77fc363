import Mathlib.Algebra.GroupWithZero.Nat
import SqlExecution.Parameter.Native
import SqlExecution.Proofs.CalendarTexts
import SqlExecution.Proofs.JsonDecoders

/-! Values and native parameters without floating-point numbers come back from their JSON texts,
each node as the variant it was, when the text nests no deeper than a reader follows. -/

namespace SqlExecution

namespace Uuid

theorem hexValue?_hexDigit : ∀ n < 16, hexValue? (hexDigit n) = some n := by decide

theorem length_hexChars (n width : Nat) : (hexChars n width).length = width := by
  induction width generalizing n with
  | zero => rfl
  | succ width ih => simp [hexChars, ih]

theorem exists_values_hexChars (n width : Nat) : ∃ values,
    (hexChars n width).mapM hexValue? = some values ∧
      values.foldl (fun n d => 16 * n + d) 0 = n % 16 ^ width := by
  induction width generalizing n with
  | zero => exact ⟨[], rfl, by simp [Nat.mod_one]⟩
  | succ width ih =>
    obtain ⟨values, read, value⟩ := ih (n / 16)
    have last := hexValue?_hexDigit (n % 16) (Nat.mod_lt _ (by decide))
    refine ⟨values ++ [n % 16], by simp [hexChars, read, last], ?_⟩
    rw [List.foldl_append, value, Nat.pow_succ', Nat.mod_mul]
    exact Nat.add_comm _ _

theorem ofDigits?_hexChars (u : Uuid) : ofDigits? (hexChars u.value.toNat 32) = some u := by
  obtain ⟨values, read, value⟩ := exists_values_hexChars u.value.toNat 32
  have small : u.value.toNat % 16 ^ 32 = u.value.toNat := Nat.mod_eq_of_lt u.value.isLt
  rw [ofDigits?, if_pos (length_hexChars _ _), read, Option.bind_eq_bind, Option.bind_some, value,
    small, BitVec.ofNat_toNat, BitVec.setWidth_eq]

theorem grouped_cons_cons (n m : Nat) (sizes : List Nat) (ds : List Char) :
    grouped (n :: m :: sizes) ds = ds.take n ++ '-' :: grouped (m :: sizes) (ds.drop n) := rfl

theorem ungrouped?_cons_cons (m : Nat) (sizes : List Nat) (front back : List Char) :
    ungrouped? (front.length :: m :: sizes) (front ++ '-' :: back) =
      (ungrouped? (m :: sizes) back).map (front ++ ·) := by
  rw [ungrouped?, List.drop_left, List.take_left]
  · rfl
  · exact List.cons_ne_nil m sizes

theorem ungrouped?_grouped (sizes : List Nat) (ds : List Char) (all : ds.length = sizes.sum) :
    ungrouped? sizes (grouped sizes ds) = some ds := by
  induction sizes generalizing ds with
  | nil => simp_all [grouped, ungrouped?]
  | cons n sizes ih =>
    cases sizes with
    | nil => simp_all [grouped, ungrouped?]
    | cons m sizes =>
      have front : (ds.take n).length = n := by simp [all]
      have back := ih (ds.drop n) (by simp [all])
      have split := ungrouped?_cons_cons m sizes (ds.take n) (grouped (m :: sizes) (ds.drop n))
      rw [front, back] at split
      rw [grouped_cons_cons, split, Option.map_some, List.take_append_drop]

theorem length_grouped (n : Nat) (sizes : List Nat) (ds : List Char) :
    (grouped (n :: sizes) ds).length = ds.length + sizes.length := by
  induction sizes generalizing n ds with
  | nil => rfl
  | cons m sizes ih =>
    rw [grouped_cons_cons, List.length_append, List.length_cons, ih, List.length_cons,
      List.length_take, List.length_drop]
    omega

theorem length_chars (u : Uuid) : u.chars.length = 36 := by
  rw [chars, groups, length_grouped, length_hexChars]
  rfl

theorem read?_of_length {cs : List Char} (length : cs.length = 36) :
    read? (String.ofList cs) = ofHyphenated? cs := by
  simp [read?, length]

theorem read?_text (u : Uuid) : read? u.text = some u := by
  have all : (hexChars u.value.toNat 32).length = groups.sum := by
    rw [length_hexChars]
    rfl
  rw [text, read?_of_length u.length_chars, ofHyphenated?, chars, ungrouped?_grouped _ _ all,
    Option.bind_some, ofDigits?_hexChars]

end Uuid
open Json

section Options

variable {α : Type} {f : α → Document}

theorem Json.Document.nesting_ofOption (flat : ∀ x, (f x).nesting = 0) (o : Option α) :
    (ofOption f o).nesting = 0 := by
  cases o with
  | none => rfl
  | some x => exact flat x

theorem Json.Document.plain_ofOption (plain : ∀ x, (f x).IsPlain) (o : Option α) :
    (ofOption f o).IsPlain := by
  cases o with
  | none => trivial
  | some x => exact plain x

theorem Json.Decoder.reads_option {d : Decoder α} (shown : ∀ x, f x ≠ .null)
    (reads : ∀ x, d.Reads (f x) x) (o : Option α) : d.option.Reads (.ofOption f o) o := by
  cases o with
  | none => exact fun _ => by simp [Document.ofOption, Document.nesting, Decoder.option]
  | some x =>
    intro room
    rw [Document.ofOption, Decoder.option, reads x room]
    · split <;> rfl
    · exact shown x

end Options

namespace Value

mutual

/-- No floating-point number and no leap second within a minute stands anywhere in the value, and
the JSON in it is exact. -/
def Exact : Value → Prop
  | float _ => False
  | double _ => False
  | timestamp t => t.time.IsCanonical
  | timestampTz t => t.timestamp.time.IsCanonical
  | json j => j.Exact
  | array items => ItemsExact items
  | _ => True

def ItemsExact : List Value → Prop
  | [] => True
  | item :: rest => item.Exact ∧ ItemsExact rest

end

theorem plain_numbers (ns : List Int) : Document.ItemsArePlain (ns.map .ofInt) := by
  induction ns with
  | nil => trivial
  | cons n ns ih => exact ⟨⟨n, rfl⟩, ih⟩

theorem plain_tagged (name : String) {content : Document} (plain : content.IsPlain) :
    (tagged name content).IsPlain := ⟨rfl, plain, trivial⟩

mutual

theorem plain_toDocument (v : Value) (exact : v.Exact) : v.toDocument.IsPlain := by
  cases v with
  | null => rfl
  | float _ => exact exact.elim
  | double _ => exact exact.elim
  | bool _ => exact plain_tagged _ trivial
  | tinyInt n | smallInt n | int n | bigInt n | uBigInt n => exact plain_tagged _ ⟨_, rfl⟩
  | decimal _ | text _ | date _ | timestamp _ | timestampTz _ | uuid _ => exact plain_tagged _ rfl
  | bytes bs =>
    have plain := plain_numbers (bs.map fun b => (b.toNat : Int))
    rw [List.map_map] at plain
    exact plain_tagged _ plain
  | json j => exact plain_tagged _ (j.plain_toDocument exact)
  | array items => exact plain_tagged _ (plain_toDocuments items exact)

theorem plain_toDocuments (items : List Value) (exact : ItemsExact items) :
    Document.ItemsArePlain (toDocuments items) := by
  cases items with
  | nil => trivial
  | cons item rest =>
    exact ⟨plain_toDocument item exact.1, plain_toDocuments rest exact.2⟩

end

section Tagged

variable {α : Type} {name : String} {content : Document} {v : Value} {f : α → Value} {a : α}

theorem nesting_tagged (name : String) (content : Document) :
    (tagged name content).nesting = content.nesting + 1 := by
  simp [tagged, Document.ofMembers, Document.nesting, Document.membersNesting]

theorem reads_tagged
    (reads : ∀ room, ofContent? room name content =
      if content.nesting ≤ room then some v else none) :
    decoder.Reads (tagged name content) v := by
  intro room
  rw [nesting_tagged]
  cases room with
  | zero => rfl
  | succ room => simp [← reads room, decoder, tagged, Document.ofMembers, ofDocument?]

theorem reads_scalar {d : Decoder Value} (known : scalarDecoder name = some d)
    (reads : d.Reads content v) : decoder.Reads (tagged name content) v := by
  have notNull : name ≠ "Null" := by
    rintro rfl
    exact nomatch known
  have notArray : name ≠ "Array" := by
    rintro rfl
    exact nomatch known
  refine reads_tagged fun room => ?_
  rw [← reads room]
  cases content <;> simp [ofContent?, known, notNull, notArray]

theorem reads_variant {d : Decoder α} (known : scalarDecoder name = some (d.map f))
    (reads : d.Reads content a) (same : f a = v) : decoder.Reads (tagged name content) v :=
  same ▸ reads_scalar known (reads.map f)

theorem reads_content {s : String} {read? : String → Option α}
    (known : scalarDecoder name = some (Decoder.string.filterMap fun s => (read? s).map f))
    (read : read? s = some a) : decoder.Reads (tagged name (.ofString s)) (f a) :=
  reads_scalar known ((Decoder.reads_string s).filterMap (by rw [read, Option.map_some]))

end Tagged

theorem reads_bytes (bs : List UInt8) :
    (Decoder.nat 255).list.Reads (.array (bs.map fun b => .ofInt b.toNat))
      (bs.map fun b => b.toNat) :=
  .list fun b _ => Decoder.reads_nat (by decide) (Nat.le_of_lt_succ b.toNat_lt)

mutual

theorem reads_toDocument (v : Value) (exact : v.Exact) : decoder.Reads v.toDocument v := by
  cases v with
  | null =>
    intro room
    simp [toDocument, Document.ofString, Document.nesting, decoder, ofDocument?]
  | bool b => exact reads_variant rfl (Decoder.reads_bool b) rfl
  | tinyInt n =>
    have between := And.intro n.minValue_le_toInt n.toInt_le
    exact reads_variant rfl (Decoder.reads_int (by decide) (by decide) between) (by simp)
  | smallInt n =>
    have between := And.intro n.minValue_le_toInt n.toInt_le
    exact reads_variant rfl (Decoder.reads_int (by decide) (by decide) between) (by simp)
  | int n =>
    have between := And.intro n.minValue_le_toInt n.toInt_le
    exact reads_variant rfl (Decoder.reads_int (by decide) (by decide) between) (by simp)
  | bigInt n =>
    have between := And.intro n.minValue_le_toInt n.toInt_le
    exact reads_variant rfl (Decoder.reads_int (by decide) (by decide) between) (by simp)
  | uBigInt n =>
    have within := Nat.le_sub_one_of_lt n.toNat_lt
    exact reads_variant rfl (Decoder.reads_nat (by decide) within) (by simp)
  | float _ => exact exact.elim
  | double _ => exact exact.elim
  | decimal s => exact reads_variant rfl (Decoder.reads_string s) rfl
  | text s => exact reads_variant rfl (Decoder.reads_string s) rfl
  | bytes bs => exact reads_variant rfl (reads_bytes bs) (by simp [Function.comp_def])
  | date d => exact reads_content rfl d.read?_chars
  | timestamp t => exact reads_content rfl (t.read?_chars_iff.2 exact)
  | timestampTz t => exact reads_content rfl (t.read?_zuluChars_iff.2 exact)
  | uuid u => exact reads_content rfl u.read?_text
  | json j => exact reads_variant rfl (j.reads_toDocument exact) rfl
  | array items =>
    refine reads_tagged fun room => ?_
    change _ = if Document.itemsNesting (toDocuments items) + 1 ≤ room then _ else none
    rw [← Decoder.one_within _ room items array]
    cases room with
    | zero => rfl
    | succ room => exact congrArg (·.map array) (reads_toDocuments items exact room)

theorem reads_toDocuments (items : List Value) (exact : ItemsExact items) (room : Nat) :
    ofDocuments? room (toDocuments items) =
      if Document.itemsNesting (toDocuments items) ≤ room then some items else none := by
  cases items with
  | nil => simp [toDocuments, Document.itemsNesting, ofDocuments?]
  | cons item rest =>
    have here : ofDocument? room item.toDocument = _ := reads_toDocument item exact.1 room
    have later := reads_toDocuments rest exact.2 room
    rw [toDocuments, ofDocuments?, here, later]
    exact Decoder.both_within _ _ room item rest (· :: ·)

end

end Value

namespace NativeParameter

def typeDocument (p : NativeParameter) : Document := .ofOption (fun t => .ofString t.name) p.dbType

def sizeDocument (p : NativeParameter) : Document := .ofOption (fun n => .ofInt n.toNat) p.size

variable (p : NativeParameter)

theorem nesting_typeDocument : p.typeDocument.nesting = 0 :=
  Document.nesting_ofOption (fun _ => rfl) p.dbType

theorem nesting_sizeDocument : p.sizeDocument.nesting = 0 :=
  Document.nesting_ofOption (fun _ => rfl) p.size

theorem nesting_toDocument : p.toDocument.nesting = p.value.toDocument.nesting + 1 := by
  change max 0 (max p.value.toDocument.nesting (max p.typeDocument.nesting (max 0 (max 0
    (max p.sizeDocument.nesting 0))))) + 1 = _
  rw [nesting_typeDocument, nesting_sizeDocument]
  simp

theorem plain_typeDocument : p.typeDocument.IsPlain := by
  refine Document.plain_ofOption (fun t => ?_) p.dbType
  rfl

theorem plain_sizeDocument : p.sizeDocument.IsPlain := by
  refine Document.plain_ofOption (fun n => ?_) p.size
  exact ⟨_, rfl⟩

theorem plain_toDocument (exact : p.value.Exact) : p.toDocument.IsPlain :=
  have value := p.value.plain_toDocument exact
  ⟨rfl, rfl, rfl, value, rfl, p.plain_typeDocument, rfl, rfl, rfl, trivial, rfl,
    p.plain_sizeDocument, trivial⟩

theorem reads_typeDocument : DbType.decoder.option.Reads p.typeDocument p.dbType :=
  Decoder.reads_option nofun (fun t => Decoder.reads_choice t.ofName?_name) p.dbType

theorem reads_sizeDocument : TypeMapping.sizeDecoder.option.Reads p.sizeDocument p.size := by
  refine Decoder.reads_option nofun (fun n => ?_) p.size
  have reads := (Decoder.reads_nat (by decide) (Nat.le_sub_one_of_lt n.toNat_lt)).map UInt32.ofNat
  rwa [UInt32.ofNat_toNat] at reads

theorem reads_direction : Direction.decoder.Reads (.ofString p.direction.name) p.direction :=
  Decoder.reads_choice p.direction.ofName?_name

theorem record_toDocument (room : Nat) :
    Decoder.record ["name", "value", "db_type", "direction", "is_nullable", "size"] false (room + 1)
      p.toDocument =
      some (room, [some (.ofString p.name), some p.value.toDocument, some p.typeDocument,
        some (.ofString p.direction.name), some (.bool p.nullable), some p.sizeDocument]) := by
  have distinct : ["name", "value", "db_type", "direction", "is_nullable", "size"].Nodup := by
    decide
  exact Decoder.record_ofMembers distinct rfl false room

theorem reads_toDocument (exact : p.value.Exact) : decoder.Reads p.toDocument p := by
  intro room
  rw [nesting_toDocument]
  cases room with
  | zero => rfl
  | succ room =>
    have name := (Decoder.reads_string p.name).flat rfl room
    have value := p.value.reads_toDocument exact room
    have dbType := p.reads_typeDocument.flat p.nesting_typeDocument room
    have direction := p.reads_direction.flat rfl room
    have nullable := (Decoder.reads_bool p.nullable).flat rfl room
    have size := p.reads_sizeDocument.flat p.nesting_sizeDocument room
    rw [decoder, record_toDocument]
    simp only [Option.bind_eq_bind, Option.bind_some, Decoder.required, Decoder.orElse, name, value,
      dbType, direction, nullable, size]
    by_cases within : p.value.toDocument.nesting ≤ room <;> simp [within]

end NativeParameter

/-- Values with one text are one value, so no two variants share a text, however deep they nest. -/
theorem Value.jsonText_inj {v w : Value} (vExact : v.Exact) (wExact : w.Exact)
    (same : v.jsonText = w.jsonText) : v = w := by
  have documents : v.toDocument = w.toDocument := Option.some.inj <| by
    rw [← Document.read?_text (v.plain_toDocument vExact),
      ← Document.read?_text (w.plain_toDocument wExact)]
    exact congrArg Document.read? same
  have first := v.reads_toDocument vExact v.toDocument.nesting
  have second := w.reads_toDocument wExact w.toDocument.nesting
  rw [if_pos (Nat.le_refl _)] at first second
  rw [documents, second] at first
  exact (Option.some.inj first).symm

/-- A value or a parameter without floating-point numbers comes back from its JSON text as it was,
each node of the variant it had, when the text nests no deeper than a reader follows; a deeper one
is refused. -/
theorem Value.texts_read_back :
    (∀ v : Value, v.Exact →
      Value.readJson? v.jsonText = if v.toDocument.nesting ≤ nestingLimit then some v else none) ∧
    (∀ p : NativeParameter, p.value.Exact →
      NativeParameter.decoder.run p.toDocument.text =
        if p.toDocument.nesting ≤ nestingLimit then some p else none) :=
  ⟨fun v exact => (v.reads_toDocument exact).run (v.plain_toDocument exact),
    fun p exact => (p.reads_toDocument exact).run (p.plain_toDocument exact)⟩

/-- A leap second within its minute has the text of a fraction of the next second. -/
def Value.leapWithinMinute : Value :=
  .timestamp ⟨⟨2016, 12, 31, by decide, by decide, by decide⟩,
    ⟨23, 56, 4, 1333333333, by decide, by decide, by decide, by decide⟩⟩

def Value.nextSecond : Value :=
  .timestamp ⟨⟨2016, 12, 31, by decide, by decide, by decide⟩,
    ⟨23, 56, 5, 333333333, by decide, by decide, by decide, by decide⟩⟩

/-- A number within as many arrays. -/
def Value.wrapped : Nat → Value
  | 0 => .int 0
  | n + 1 => .array [wrapped n]

theorem Value.exact_wrapped (n : Nat) : (wrapped n).Exact := by
  induction n with
  | zero => trivial
  | succ n ih => exact ⟨ih, trivial⟩

theorem Value.nesting_wrapped (n : Nat) : (wrapped n).toDocument.nesting = 2 * n + 1 := by
  induction n with
  | zero => rfl
  | succ n ih =>
    change max (wrapped n).toDocument.nesting 0 + 1 + 1 = _
    omega

/-- The two ways to lose a value that has no floating-point number: a leap second within its minute
becomes another time, and around a value as deep as a reader follows, a parameter is too deep. -/
theorem Value.not_all_read_back :
    (Value.readJson? leapWithinMinute.jsonText = some nextSecond ∧
      leapWithinMinute.equal nextSecond = false) ∧
    Value.readJson? (wrapped 63).jsonText = some (wrapped 63) ∧
      NativeParameter.decoder.run
        (NativeParameter.mk "@p" (wrapped 63) none .input false none).toDocument.text = none := by
  have same : leapWithinMinute.jsonText = nextSecond.jsonText := rfl
  have exact : nextSecond.Exact := fun leap => absurd leap (by decide)
  have next := (nextSecond.reads_toDocument exact).run (nextSecond.plain_toDocument exact)
  have deep := ((wrapped 63).reads_toDocument (exact_wrapped 63)).run
    ((wrapped 63).plain_toDocument (exact_wrapped 63))
  have deeper := (NativeParameter.reads_toDocument ⟨"@p", wrapped 63, none, .input, false, none⟩
    (exact_wrapped 63)).run (NativeParameter.plain_toDocument _ (exact_wrapped 63))
  rw [NativeParameter.nesting_toDocument, nesting_wrapped, if_neg (by decide)] at deeper
  rw [nesting_wrapped, if_pos (by decide)] at deep
  rw [if_pos (by decide)] at next
  rw [same]
  exact ⟨⟨next, by decide⟩, deep, deeper⟩

/-- Texts, dates and numbers that look alike, both nulls and nested lists in one value. -/
def Value.lookAlikes : Value :=
  let leapDay : Date := ⟨2024, 2, 29, by decide, by decide, by decide⟩
  let leapSecond : TimeOfDay :=
    ⟨23, 59, 59, 1120000000, by decide, by decide, by decide, by decide⟩
  .array [.null, .json .null, .text "2024-02-29", .date leapDay, .timestamp ⟨leapDay, leapSecond⟩,
    .timestampTz ⟨⟨leapDay, leapSecond⟩, -330, by decide, by decide⟩, .decimal "-0.10",
    .text "\"\\\n\x01é", .uuid ⟨0x6f⟩, .bytes [0, 255], .array [.array [], .tinyInt (-128)],
    .json (.object [("at", .string "2024-02-29"), ("size", .number (.integer (-5)))]),
    .uBigInt 0xffffffffffffffff]

def NativeParameter.lookAlikes : NativeParameter :=
  ⟨"@p\n", .lookAlikes, some .json, .inputOutput, false, some 12⟩

theorem Value.exact_lookAlikes : Value.lookAlikes.Exact := by
  have sorted : Named.Sorted
      [("at", Json.string "2024-02-29"), ("size", Json.number (.integer (-5)))] := by
    refine .cons (fun e member => ?_) (List.pairwise_singleton _ _)
    rw [List.mem_singleton.1 member]
    decide
  simp [lookAlikes, Exact, ItemsExact, Json.Exact, Json.MembersExact, FitsWord,
    TimeOfDay.IsCanonical, sorted]

theorem Value.lookAlikes_read_back :
    Value.readJson? Value.lookAlikes.jsonText = some Value.lookAlikes ∧
      NativeParameter.decoder.run NativeParameter.lookAlikes.toDocument.text =
        some NativeParameter.lookAlikes := by
  have value := Value.texts_read_back.1 Value.lookAlikes Value.exact_lookAlikes
  have parameter := Value.texts_read_back.2 NativeParameter.lookAlikes Value.exact_lookAlikes
  rw [if_pos (by decide)] at value parameter
  exact ⟨value, parameter⟩

end SqlExecution
