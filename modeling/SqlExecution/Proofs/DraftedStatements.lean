import Mathlib.Data.List.DropRight
import Mathlib.Data.List.Nodup
import SqlExecution.Engine.Execution
import SqlExecution.Proofs.PatternMatching

/-! What becomes of a draft, told from the calls that were made on it. Its text and parameters are
those of the calls since it was last cleared. Its names are accepted when each of them is a name and
no two are equal, and otherwise the first in order that offends is named. What a name is follows
from the pattern of names, whichever compiler it is given to. -/

namespace SqlExecution

variable {σ : Type}

/-- What can be done with a draft. A populated command takes over its text and parameters. -/
inductive DraftCall (σ : Type) where
  | append (s : String)
  | appendLine (s : String)
  | add (p : Parameter)
  | clear
  | validate
  | build
  | populate (c : Command σ)

inductive DraftAnswer (σ : Type) where
  | edited
  | checked (result : Result Unit)
  | built (result : Result Statement)
  | populated (c : Command σ)

namespace DraftCall

def isClear : DraftCall σ → Bool
  | clear => true
  | _ => false

def piece : DraftCall σ → String
  | append s => s
  | appendLine s => s ++ "\n"
  | _ => ""

def declared : DraftCall σ → List Parameter
  | add p => [p]
  | _ => []

/-- The calls since the draft was last cleared. -/
def live (past : List (DraftCall σ)) : List (DraftCall σ) := past.rtakeWhile (!·.isClear)

/-- What the live calls put into the draft, piece by piece and parameter by parameter. -/
def statement (past : List (DraftCall σ)) : Statement :=
  ⟨String.join ((live past).map piece), (live past).flatMap declared⟩

def names (past : List (DraftCall σ)) : List String := (statement past).parameters.map (·.invariant)

theorem live_concat (past : List (DraftCall σ)) (call : DraftCall σ) :
    live (past ++ [call]) = if call.isClear then [] else live past ++ [call] := by
  rw [live, List.rtakeWhile_concat]
  cases call.isClear <;> rfl

theorem statement_concat_clear (past : List (DraftCall σ)) :
    statement (past ++ [.clear]) = ⟨"", []⟩ := by
  rw [statement, live_concat]
  rfl

theorem statement_concat {call : DraftCall σ} (goesOn : call.isClear = false)
    (past : List (DraftCall σ)) :
    statement (past ++ [call]) =
      ⟨(statement past).text ++ call.piece, (statement past).parameters ++ call.declared⟩ := by
  simp [statement, live_concat, goesOn, String.join_append]

end DraftCall

namespace Draft

def perform (compile : Pattern.Compiler) (d : Draft) : DraftCall σ → DraftAnswer σ × Draft
  | .append s => (.edited, d.append s)
  | .appendLine s => (.edited, d.appendLine s)
  | .add p => (.edited, d.add p)
  | .clear => (.edited, .empty)
  | .validate => (.checked (d.validateBy compile), d)
  | .build => (.built (d.buildBy compile), d)
  | .populate c => (.populated (c.populate d.template), d)

/-- The draft after the calls. -/
def run (compile : Pattern.Compiler) (d : Draft) (calls : List (DraftCall σ)) : Draft :=
  calls.foldl (fun d call => (d.perform compile call).2) d

variable {compile : Pattern.Compiler}

theorem template_perform {past : List (DraftCall σ)} {d : Draft}
    (holds : d.template = DraftCall.statement past) (call : DraftCall σ) :
    (d.perform compile call).2.template = DraftCall.statement (past ++ [call]) := by
  cases call with
  | clear => rw [DraftCall.statement_concat_clear]; rfl
  | append s =>
    rw [DraftCall.statement_concat rfl, ← holds]
    simp [perform, append, template, DraftCall.piece, DraftCall.declared]
  | appendLine s =>
    rw [DraftCall.statement_concat rfl, ← holds]
    simp [perform, appendLine, template, DraftCall.piece, DraftCall.declared, String.append_assoc]
  | add p =>
    rw [DraftCall.statement_concat rfl, ← holds]
    simp [perform, add, template, DraftCall.piece, DraftCall.declared]
  | validate | build | populate =>
    rw [DraftCall.statement_concat rfl, ← holds]
    simp [perform, template, DraftCall.piece, DraftCall.declared]

theorem template_run (calls : List (DraftCall σ)) :
    (Draft.empty.run compile calls).template = DraftCall.statement calls := by
  induction calls using List.reverseRecOn with
  | nil => rfl
  | append_singleton past call ih =>
    rw [run, List.foldl_append]
    exact template_perform ih call

/-- A letter or underscore, and after it letters, digits and underscores only. All of them are
ASCII. -/
def IsName (s : String) : Prop :=
  ∃ first rest, s.toList = first :: rest ∧ (first.isAlpha ∨ first = '_') ∧
    ∀ c ∈ rest, c.isAlphanum ∨ c = '_'

def upperCase : ClassItem := .range ⟨'A', by decide⟩ ⟨'Z', by decide⟩ (by decide)

def lowerCase : ClassItem := .range ⟨'a', by decide⟩ ⟨'z', by decide⟩ (by decide)

def digit : ClassItem := .range ⟨'0', by decide⟩ ⟨'9', by decide⟩ (by decide)

def underscore : ClassItem := .single ⟨'_', by decide⟩

def nameStart : CharClass := ⟨[upperCase, lowerCase, underscore], by simp⟩

def nameRest : CharClass := ⟨[upperCase, lowerCase, digit, underscore], by simp⟩

def nameExpression : Pattern := [.start, .one nameStart, .many nameRest, .finish]

theorem text_nameExpression : nameExpression.text = namePattern := by decide

theorem has_nameStart_iff (c : Char) : nameStart.has c = true ↔ c.isAlpha ∨ c = '_' := by
  have ranges : c.isAlpha =
      (decide ('A' ≤ c ∧ c ≤ 'Z') || decide ('a' ≤ c) && decide (c ≤ 'z')) := rfl
  simp [CharClass.has, ClassItem.has, nameStart, upperCase, lowerCase, underscore, ranges, or_assoc]

theorem has_nameRest_iff (c : Char) : nameRest.has c = true ↔ c.isAlphanum ∨ c = '_' := by
  have digits : digit.has c = c.isDigit := rfl
  have rest : nameRest.has c = true ↔ nameStart.has c = true ∨ digit.has c = true := by
    simp only [CharClass.has, nameRest, nameStart, List.any_cons, List.any_nil, Bool.or_eq_true,
      Bool.or_false]
    tauto
  rw [rest, digits, has_nameStart_iff, Char.isAlphanum, Bool.or_eq_true]
  tauto

theorem foundIn_nameExpression_iff (s : String) : nameExpression.FoundIn s.toList ↔ IsName s := by
  rw [nameExpression, Pattern.foundIn_start_iff, IsName]
  cases s.toList with
  | nil => exact iff_of_false Pattern.not_begins_one_nil (by simp)
  | cons first rest =>
    simp [Pattern.begins_one_cons_iff, Pattern.begins_many_finish_iff, has_nameStart_iff,
      has_nameRest_iff]

theorem nameRule_of_documented (documented : compile.Documented) :
    ∃ accepts, nameRule compile = .ok accepts ∧ ∀ s, accepts s = true ↔ IsName s := by
  obtain ⟨accepts, compiled⟩ := documented.compiles nameExpression (by decide)
  refine ⟨accepts, ?_, fun s => ?_⟩
  · rw [nameRule, ← text_nameExpression, compiled]
    rfl
  · rw [documented.decides nameExpression accepts compiled, foundIn_nameExpression_iff]

/-- The names of declared parameters as they should be. -/
structure Proper (names : List String) : Prop where
  areNames : ∀ name ∈ names, IsName name
  distinct : names.Nodup

/-- Why a parameter is refused for its name, given the names before it. -/
inductive Offence (earlier : List String) (name : String) : Error → Prop where
  | noName (wrong : ¬ IsName name) : Offence earlier name (invalidName name)
  | repeated (right : IsName name) (again : name ∈ earlier) :
    Offence earlier name (declaredTwice name)

/-- The error is for the least index at which there is an offence. -/
def Refuses (names : List String) (e : Error) : Prop :=
  ∃ i name, names[i]? = some name ∧ Proper (names.take i) ∧ Offence (names.take i) name e

theorem Proper.nil : Proper [] := ⟨by simp, .nil⟩

theorem proper_concat_iff (names : List String) (name : String) :
    Proper (names ++ [name]) ↔ Proper names ∧ IsName name ∧ name ∉ names := by
  have distinct_iff : (names ++ [name]).Nodup ↔ name ∉ names ∧ names.Nodup := by
    rw [← List.concat_eq_append]
    exact List.nodup_concat names name
  constructor
  · rintro ⟨areNames, distinct⟩
    obtain ⟨fresh, names_distinct⟩ := distinct_iff.1 distinct
    exact ⟨⟨fun n member => areNames n (List.mem_append_left _ member), names_distinct⟩,
      areNames name (by simp), fresh⟩
  · rintro ⟨⟨areNames, distinct⟩, isName, fresh⟩
    refine ⟨fun n member => ?_, distinct_iff.2 ⟨fresh, distinct⟩⟩
    rcases List.mem_append.1 member with earlier | last
    · exact areNames n earlier
    · rw [List.mem_singleton.1 last]
      exact isName

theorem Proper.take {names : List String} (proper : Proper names) (n : Nat) :
    Proper (names.take n) :=
  ⟨fun name member => proper.areNames name (List.mem_of_mem_take member),
    proper.distinct.sublist (List.take_sublist n names)⟩

theorem Refuses.not_proper {names : List String} {e : Error} (refuses : Refuses names e) :
    ¬ Proper names := by
  intro proper
  obtain ⟨i, name, found, -, offence⟩ := refuses
  have up_to : names.take (i + 1) = names.take i ++ [name] := by
    rw [List.take_add_one, found]
    rfl
  have fine := (proper_concat_iff _ _).1 (up_to ▸ proper.take (i + 1))
  cases offence with
  | noName wrong => exact wrong fine.2.1
  | repeated _ again => exact fine.2.2 again

/-- Acceptance and refusal of names, not told as a search. -/
def Judged (names : List String) : Result Unit → Prop
  | .ok () => Proper names
  | .error e => Refuses names e

theorem checkNames_judged {accepts : String → Bool} (rule : ∀ s, accepts s = true ↔ IsName s)
    {earlier seen : List String} (proper : Proper earlier)
    (same : ∀ name, name ∈ seen ↔ name ∈ earlier) (rest : List String) :
    Judged (earlier ++ rest) (checkNames accepts seen rest) := by
  -- The names seen so far are those before the rest, and they are proper.
  induction rest generalizing earlier seen with
  | nil =>
    rw [List.append_nil]
    exact proper
  | cons name rest ih =>
    have here : (earlier ++ name :: rest)[earlier.length]? = some name := by simp
    have before : (earlier ++ name :: rest).take earlier.length = earlier := by simp
    have refused {e : Error} (offence : Offence earlier name e) :
        Refuses (earlier ++ name :: rest) e :=
      ⟨earlier.length, name, here, by rwa [before], by rwa [before]⟩
    unfold checkNames
    by_cases isName : IsName name
    · rw [(rule name).2 isName, Bool.not_true, if_neg Bool.false_ne_true]
      by_cases again : name ∈ earlier
      · rw [if_pos (by simpa using (same name).2 again)]
        exact refused (.repeated isName again)
      · rw [if_neg (by simpa using mt (same name).1 again)]
        have seen_same (other : String) : other ∈ name :: seen ↔ other ∈ earlier ++ [name] := by
          simp [same, or_comm]
        have longer := ih ((proper_concat_iff _ _).2 ⟨proper, isName, again⟩) seen_same
        rwa [List.append_assoc, List.singleton_append] at longer
    · have fails : accepts name = false := Bool.eq_false_iff.2 (mt (rule name).1 isName)
      rw [fails, Bool.not_false, if_pos rfl]
      exact refused (.noName isName)

theorem validateBy_judged (documented : compile.Documented) (d : Draft) :
    Judged (d.parameters.map (·.invariant)) (d.validateBy compile) := by
  obtain ⟨accepts, compiled, rule⟩ := nameRule_of_documented documented
  rw [validateBy, compiled]
  exact checkNames_judged rule .nil (fun _ => Iff.rfl) _

theorem Judged.ok_iff {names : List String} {r : Result Unit} (judged : Judged names r) :
    r = .ok () ↔ Proper names := by
  match r, judged with
  | .ok (), proper => exact iff_of_true rfl proper
  | .error e, refuses => exact iff_of_false (fun h => by cases h) refuses.not_proper

theorem Judged.refuses {names : List String} {r : Result Unit} (judged : Judged names r) {e : Error}
    (failed : r = .error e) : Refuses names e := by
  subst failed
  exact judged

theorem buildBy_eq (compile : Pattern.Compiler) (d : Draft) :
    d.buildBy compile = (d.validateBy compile).map fun () => d.template := by
  unfold buildBy
  cases d.validateBy compile <;> rfl

/-- A draft and what it answers after the past calls. -/
structure Follows (compile : Pattern.Compiler) (past : List (DraftCall σ)) (d : Draft) : Prop where
  text : d.text = (DraftCall.statement past).text
  parameters : d.parameters = (DraftCall.statement past).parameters
  validates_iff : d.validateBy compile = .ok () ↔ Proper (DraftCall.names past)
  builds_iff : ∀ s, d.buildBy compile = .ok s ↔
    Proper (DraftCall.names past) ∧ s = DraftCall.statement past
  refuses : ∀ e, d.validateBy compile = .error e → Refuses (DraftCall.names past) e
  build_refuses_iff : ∀ e, d.buildBy compile = .error e ↔ d.validateBy compile = .error e
  /-- Neither a check nor a command that is built or populated changes the draft. -/
  stays : ∀ c : Command σ, (d.perform compile (.validate : DraftCall σ)).2 = d ∧
    (d.perform compile (.build : DraftCall σ)).2 = d ∧ (d.perform compile (.populate c)).2 = d
  /-- Whatever the names are, a command can be populated with them. -/
  populates : ∀ c : Command σ, (d.perform compile (.populate c)).1 =
    .populated { c with statement := DraftCall.statement past }

/-- After any course of calls, a draft holds what was put into it since it was last cleared, accepts
proper names only, and names the first that is not. -/
theorem follows_calls (documented : compile.Documented) (past : List (DraftCall σ)) :
    (Draft.empty.run compile past).Follows compile past := by
  have holds : (Draft.empty.run compile past).template = DraftCall.statement past :=
    template_run past
  generalize Draft.empty.run compile past = d at holds ⊢
  have judged : Judged (DraftCall.names past) (d.validateBy compile) := by
    rw [DraftCall.names, ← holds]
    exact validateBy_judged documented d
  refine ⟨congrArg Statement.text holds, congrArg Statement.parameters holds, judged.ok_iff,
    fun s => ?_, fun e failed => judged.refuses failed, fun e => ?_, fun c => ⟨rfl, rfl, rfl⟩,
    fun c => ?_⟩
  · rw [← judged.ok_iff, buildBy_eq, ← holds]
    cases d.validateBy compile <;> simp [Except.map, eq_comm]
  · rw [buildBy_eq]
    cases d.validateBy compile <;> simp [Except.map]
  · rw [← holds]
    rfl

/-- Of what was cleared away nothing counts, case tells names apart, and a line break at the end
spoils a name before the repeated one is reached. -/
def misnamed : List (DraftCall Unit) :=
  [.append "DROP TABLE t", .add (.of "id"), .clear, .appendLine "SELECT @id", .append "FROM t",
    .add (.of "id"), .add (.of "ID"), .add (.of "id\n"), .add (.of "id")]

theorem misnamed_followed :
    Pattern.Compiler.Documented Pattern.compile ∧
      (Draft.empty.run Pattern.compile misnamed).Follows Pattern.compile misnamed ∧
      (Draft.empty.run Pattern.compile misnamed).validate = .error (invalidName "id\n") :=
  ⟨Pattern.documented_compile, follows_calls Pattern.documented_compile misnamed, by decide⟩

end Draft

end SqlExecution
