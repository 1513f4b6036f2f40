import LiteratePages.Proofs.Code.ProgramPlacement
import LiteratePages.Proofs.Run.Sequence
import LiteratePages.Proofs.Run.Watched

namespace LiteratePages

open Code (Expr Piece Span Statement Setting Program)

/-- What the action raises has a place inside all of `outers`, and what is under way then lies one
inside the other. -/
def Watched.Nests {α : Type} (outers : List Span) (action : Watched α) : Prop :=
  ∀ under machine raised final, (∀ span ∈ under, span ∈ outers) → under.Pairwise Span.Inside →
    action under machine = (.error raised, final) → raised.spans.Pairwise Span.Inside

namespace Watched.Nests

variable {α β : Type} {outers : List Span} {setting : Setting} {text : String}

/-- What lies inside of more lies inside of less. -/
theorem narrow {span : Span} {action : Watched α} (nests : Nests (span :: outers) action) :
    Nests outers action :=
  fun under machine raised final within => nests under machine raised final
    fun other member => List.mem_cons_of_mem _ (within other member)

theorem pure (value : α) : Nests outers (Watched.pure value) := by
  intro under machine raised final _ _ ran
  cases ran

theorem bind {first : Watched α} {next : α → Watched β} (nests : Nests outers first)
    (later : ∀ value, Nests outers (next value)) : Nests outers (first >>= next) := by
  intro under machine raised final within nested ran
  rcases bind_eq_error ran with failed | ⟨value, reached, _, failed⟩
  · exact nests _ _ _ _ within nested failed
  · exact later value _ _ _ _ within nested failed

theorem plain {action : Run α}
    (placed : ∀ machine failure final, action machine = (.error failure, final) →
      ∀ own, failure.span = some own → ∀ outer ∈ outers, own.Inside outer) :
    Nests outers (Watched.plain action) := by
  intro under machine raised final within nested ran
  obtain ⟨around, failed⟩ := plain_eq_error ran
  unfold Raised.spans
  rw [around]
  cases own : raised.own with
  | none => exact nested
  | some span =>
      rw [own] at failed
      exact List.pairwise_cons.mpr
        ⟨fun outer member => placed _ _ _ failed span rfl outer (within outer member), nested⟩

theorem fail {fault : Fault} {place : Option Span}
    (placed : ∀ own, place = some own → ∀ outer ∈ outers, own.Inside outer) :
    Nests outers (setting.watched.fail fault place : Watched α) := by
  have raises : Nests outers (Watched.plain (Run.fail fault place : Run α)) := by
    refine plain fun machine failure final ran => ?_
    cases ran
    exact placed
  exact raises

theorem fail_none {fault : Fault} : Nests outers (setting.watched.fail fault none : Watched α) :=
  fail fun _ same => nomatch same

theorem fail_some {fault : Fault} {span : Span} (placed : ∀ outer ∈ outers, span.Inside outer) :
    Nests outers (setting.watched.fail fault (some span) : Watched α) := by
  refine fail fun own same => ?_
  cases same
  exact placed

theorem lift_none (result : Except Fault α) : Nests outers (setting.watched.lift result none) := by
  cases result with
  | ok value => exact pure value
  | error fault => exact fail_none

theorem lift_some (result : Except Fault α) {span : Span}
    (placed : ∀ outer ∈ outers, span.Inside outer) :
    Nests outers (setting.watched.lift result (some span)) := by
  cases result with
  | ok value => exact pure value
  | error fault => exact fail_some placed

theorem inside {span : Span} {action : Watched Unit} (placed : ∀ outer ∈ outers, span.Inside outer)
    (nests : Nests (span :: outers) action) : Nests outers (Watched.inside span action) := by
  intro under machine raised final within nested ran
  have around : ∀ other ∈ span :: under, other ∈ span :: outers := by
    intro other member
    rcases List.mem_cons.mp member with rfl | member
    · exact List.mem_cons_self
    · exact List.mem_cons_of_mem _ (within other member)
  have chain : (span :: under).Pairwise Span.Inside :=
    List.pairwise_cons.mpr ⟨fun outer member => placed outer (within outer member), nested⟩
  exact nests _ _ _ _ around chain ran

theorem within {action : Watched α} (depth : Nat) (nests : Nests outers action) :
    Nests outers (setting.watched.within depth action) := by
  have tooDeep : Nests outers (setting.watched.fail .stackOverflow none : Watched α) := fail_none
  change Nests outers (Watched.within setting depth action)
  unfold Watched.within
  cases setting.limit with
  | none => exact nests
  | some limit =>
      dsimp only
      split
      · exact tooDeep
      · exact nests

theorem lookup {name : String} {span : Span} (placed : ∀ outer ∈ outers, span.Inside outer) :
    Nests outers (setting.watched.lookup name span) := by
  refine plain fun machine failure final ran => ?_
  unfold Run.lookup at ran
  split at ran
  · cases ran
  · split at ran
    · cases ran
    · cases ran
      rintro own ⟨⟩
      exact placed

theorem print {written : String} : Nests outers (setting.watched.print written) := by
  have prints : Nests outers (Watched.plain (Run.print written)) := by
    refine plain fun machine failure final ran => ?_
    cases ran
  exact prints

theorem set {name : String} {value : Value} : Nests outers (setting.watched.set name value) := by
  have sets : Nests outers (Watched.plain (Run.set name value)) := by
    refine plain fun machine failure final ran => ?_
    cases ran
  exact sets

theorem callHost {name : String} {identity : Nat} {arguments : List Value} {span : Span}
    (placed : ∀ outer ∈ outers, span.Inside outer) :
    Nests outers (setting.watched.callHost name identity arguments span) := by
  refine plain fun machine failure final ran => ?_
  unfold Run.callHost at ran
  dsimp only at ran
  unfold Run.lift at ran
  split at ran
  · cases ran
  · cases ran
    rintro own ⟨⟩
    exact placed

theorem call {callee : Value} {arguments : List Value} {span : Span}
    (placed : ∀ outer ∈ outers, span.Inside outer) :
    Nests outers (setting.watched.call callee arguments span) := by
  cases callee with
  | function function =>
      obtain ⟨target, identity⟩ := function
      cases target with
      | builtin builtin => exact bind print fun _ => lift_some _ placed
      | host name => exact callHost placed
  | _ => exact fail_some placed

mutual

theorem eval {outers : List Span} (depth : Nat) : (e : Expr) → e.Placed text outers →
    Nests outers (e.evalIn setting.watched depth)
  | .string _, _ | .number _, _ | .boolean _, _ | .none, _ => within depth (pure _)
  | .format pieces, placed => by
      apply within depth
      exact bind (evalPieces (depth + 1) "" pieces placed) fun _ => pure _
  | .list items, placed => by
      apply within depth
      exact bind (evalAll (depth + 1) items placed) fun _ => pure _
  | .map entries, placed => by
      apply within depth
      exact bind (evalEntries (depth + 1) [] entries placed) fun _ => pure _
  | .variable name span, placed => within depth (lookup placed.1.inside)
  | .call callee arguments span, ⟨nested, function, others⟩ => by
      apply within depth
      apply bind (eval (depth + 1) callee function).narrow
      intro called
      apply bind (evalAll (depth + 1) arguments others).narrow
      intro values
      exact call nested.inside
  | .index target position span, ⟨nested, whole, place⟩ => by
      apply within depth
      apply bind (eval (depth + 1) target whole).narrow
      intro first
      apply bind (eval (depth + 1) position place).narrow
      intro second
      exact lift_some _ nested.inside
  | .unary op operand, placed => by
      apply within depth
      apply bind (eval (depth + 1) operand placed)
      intro value
      exact lift_none _
  | .binary op left right, ⟨first, second⟩ => by
      -- Before the cases on the operator, so that the recursion is on a part of the expression.
      have other := eval (depth + 1) right second
      apply within depth
      apply bind (eval (depth + 1) left first)
      intro value
      cases op with
      | and =>
          cases value.truthy with
          | false => exact pure value
          | true => exact other
      | or =>
          cases value.truthy with
          | false => exact other
          | true => exact pure value
      | _ => exact bind other fun _ => lift_none _
termination_by structural e => e

theorem evalAll {outers : List Span} (depth : Nat) : (es : List Expr) →
    Code.PlacedAll text outers es → Nests outers (Code.evalAllIn setting.watched depth es)
  | [], _ => pure _
  | e :: rest, ⟨first, later⟩ => by
      apply bind (eval depth e first)
      intro value
      exact bind (evalAll depth rest later) fun _ => pure _
termination_by structural es => es

theorem evalEntries {outers : List Span} (depth : Nat) (before : Entries Value) :
    (entries : List (Expr × Expr)) → Code.PlacedEntries text outers entries →
      Nests outers (Code.evalEntriesIn setting.watched depth before entries)
  | [], _ => pure _
  | (key, value) :: rest, ⟨first, second, later⟩ => by
      apply bind (eval depth key first)
      intro found
      cases found with
      | string name =>
          apply bind (eval depth value second)
          intro item
          exact evalEntries depth (before.insert name item) rest later
      | _ => exact fail_none
termination_by structural entries => entries

theorem evalPieces {outers : List Span} (depth : Nat) (before : String) : (pieces : List Piece) →
    Code.PlacedPieces text outers pieces →
      Nests outers (Code.evalPiecesIn setting.watched depth before pieces)
  | [], _ => pure _
  | piece :: rest, ⟨first, later⟩ => by
      apply bind (evalPiece depth piece first)
      intro found
      exact evalPieces depth (before ++ found) rest later
termination_by structural pieces => pieces

theorem evalPiece {outers : List Span} (depth : Nat) : (piece : Piece) →
    piece.Placed text outers → Nests outers (piece.evalIn setting.watched depth)
  | .text _, _ => pure _
  | .code e, placed => bind (eval depth e placed) fun _ => pure _
termination_by structural piece => piece

end

theorem iterate {name : String} {body : Watched Unit} (nests : Nests outers body)
    (items : List Value) : Nests outers (Code.iterateIn setting.watched name body items) := by
  induction items with
  | nil => exact pure ()
  | cons item rest ih => exact bind set fun _ => bind nests fun _ => ih

mutual

theorem exec {outers : List Span} (depth : Nat) : (statement : Statement) →
    statement.Placed text outers →
      Nests (statement.span :: outers) (statement.execIn setting.watched depth)
  | .assign name value _, ⟨_, placed⟩ => bind (eval (depth + 1) value placed) fun _ => set
  | .expr value _, ⟨_, placed⟩ => bind (eval (depth + 1) value placed) fun _ => pure _
  | .cond branches none _, ⟨_, placed, _⟩ => execBranches depth (pure ()) branches placed
  | .cond branches (some body) _, ⟨_, placed, otherwise⟩ =>
      execBranches depth (within (depth + 1) (execAll (depth + 1) body otherwise)) branches placed
  | .loop name source body _, ⟨_, items, placed⟩ => by
      have inner := execAll (depth + 1) body placed
      apply bind (eval (depth + 1) source items)
      intro value
      apply bind (lift_none value.iterate)
      intro items
      exact iterate (within (depth + 1) inner) items
termination_by structural statement => statement

theorem execBranches {outers : List Span} {otherwise : Watched Unit} (depth : Nat)
    (nests : Nests outers otherwise) : (branches : List (Expr × List Statement)) →
    Code.PlacedBranches text outers branches →
      Nests outers (Code.execBranchesIn setting.watched depth branches otherwise)
  | [], _ => nests
  | (condition, body) :: rest, ⟨head, placed, later⟩ => by
      have inner := execAll (depth + 1) body placed
      have others := execBranches depth nests rest later
      apply bind (eval (depth + 1) condition head)
      intro value
      cases value.truthy with
      | true => exact within (depth + 1) inner
      | false => exact others
termination_by structural branches => branches

theorem execAll {outers : List Span} (depth : Nat) : (statements : List Statement) →
    Code.PlacedBody text outers statements →
      Nests outers (Code.execAllIn setting.watched depth statements)
  | [], _ => pure ()
  | statement :: rest, ⟨placed, _, later⟩ => by
      apply bind (inside placed.inside (exec depth statement placed))
      intro _
      exact execAll depth rest later
termination_by structural statements => statements

end

end Watched.Nests

/-- What fails in a body fails in one of its statements, after those before it. -/
theorem exists_failing {setting : Setting} {depth : Nat} {under : List Span} {raised : Raised}
    {final : Machine} {statements : List Statement} {machine : Machine}
    (failed : Code.execAllIn setting.watched depth statements under machine =
      (.error raised, final)) :
    ∃ before statement after reached, statements = before ++ statement :: after ∧
      Code.execAllIn setting.watched depth before under machine = (.ok (), reached) ∧
      statement.execIn setting.watched depth (statement.span :: under) reached =
        (.error raised, final) := by
  induction statements generalizing machine with
  | nil => cases failed
  | cons statement rest ih =>
      rcases Watched.bind_eq_error failed with failed | ⟨_, reached, done, failed⟩
      · exact ⟨[], statement, rest, machine, rfl, rfl, failed⟩
      · obtain ⟨before, other, after, last, rfl, earlier, failed⟩ := ih failed
        refine ⟨statement :: before, other, after, last, rfl, ?_, failed⟩
        change Watched.bind _ _ _ _ = _
        simp only [Watched.bind, done]
        exact earlier

/-- A run from `start` fails in a statement of its program, and `raised` is what the same run raises
when it is watched. -/
structure FailsIn (setting : Setting) (start : Machine) (before : Program) (statement : Statement)
    (after : Program) (failure : Failure) (reached final : Machine) (raised : Raised) : Prop where
  /-- The statements before it have run to their ends. -/
  earlier : before.run setting start = (.ok (), reached)
  /-- What stands after it takes no part in the outcome. -/
  stops : ∀ later : Program,
    Program.run setting (before ++ statement :: later) start = (.error failure, final)
  watched : Program.runIn setting.watched (before ++ statement :: after) [] start =
    (.error raised, final)
  failure : failure = raised.failure
  outermost : raised.under.getLast? = some statement.span
  nested : raised.spans.Pairwise Span.Inside

namespace FailsIn

variable {setting : Setting} {start reached final : Machine} {before after : Program}
  {statement : Statement} {failure : Failure} {raised : Raised}

/-- A failure has a place, and it lies inside the statement. -/
theorem placed (fails : FailsIn setting start before statement after failure reached final raised) :
    ∃ place, failure.span = some place ∧ place.Inside statement.span := by
  have last : raised.spans.getLast? = some statement.span := by
    rw [Raised.spans, List.getLast?_append, fails.outermost]
    rfl
  rw [fails.failure]
  cases spans : raised.spans with
  | nil =>
      rw [spans] at last
      cases last
  | cons place outer =>
      refine ⟨place, by rw [Raised.failure, spans]; rfl, ?_⟩
      have nested := fails.nested
      rw [spans] at last nested
      rcases List.mem_cons.mp (List.mem_of_getLast? last) with same | around
      · rw [same]
        exact .refl place
      · exact List.rel_of_pairwise_cons nested around

/-- A fault without a place of its own has that of the innermost statement under way. -/
theorem innermost
    (fails : FailsIn setting start before statement after failure reached final raised)
    (unplaced : raised.own = none) : failure.span = raised.under.head? := by
  rw [fails.failure]
  simp [Raised.failure, Raised.spans, unplaced]

end FailsIn

theorem exists_failsIn {setting : Setting} {text : String} {program : Program}
    {start final : Machine} {failure : Failure} (placed : program.Placed text)
    (failed : program.run setting start = (.error failure, final)) :
    ∃ before statement after reached raised, program = before ++ statement :: after ∧
      FailsIn setting start before statement after failure reached final raised := by
  obtain ⟨raised, ran, rfl⟩ := (Watched.Shows.run setting program).raises failed
  have within : ∀ other : Program, Program.runIn setting.watched other =
      Code.execAllIn setting.watched 0 other := fun _ => Watched.within_zero ..
  have nested : raised.spans.Pairwise Span.Inside := by
    rw [within] at ran
    exact Watched.Nests.execAll 0 program placed [] start raised final nofun .nil ran
  obtain ⟨before, statement, after, reached, rfl, earlier, failing⟩ :=
    exists_failing (within program ▸ ran)
  have done : Program.run setting before start = (.ok (), reached) :=
    (Watched.Shows.run setting before).ok (within before ▸ earlier)
  have exec := Watched.Shows.exec setting 0 statement
  obtain ⟨inner, around, _⟩ := exec.error failing
  have alone : Run.located statement.span (statement.exec setting 0) reached =
      (.error raised.failure, final) := (Watched.Shows.inside statement.span exec).failure failing
  refine ⟨before, statement, after, reached, raised, rfl, done, fun later => ?_, ran, rfl, ?_,
    nested⟩
  · have first : Program.run setting (statement :: later) reached =
        (.error raised.failure, final) := by
      rw [Program.run, Code.within_zero]
      change Run.bind _ _ reached = _
      simp only [Run.bind, alone]
    rw [Program.run_append]
    simp only [Run.bind, done, first]
  · rw [around, List.getLast?_concat]

/-- Code that fails while it runs fails in one statement of its program: those before it have run to
their ends, those after it take no part in the outcome, and the failure has a place inside it. The
place is the one that the fault was raised with or, if it was raised without one, that of the
innermost statement then under way. -/
theorem interpret_failure_located {host : Host} {code : String} {scope : Scope} {failure : Failure}
    (failed : (interpret host code scope).result = .error (.runtime failure)) :
    ∃ before statement after reached final raised,
      Code.Program.parse code = .ok (before ++ statement :: after) ∧
      interpret host code scope = .ofRun (.error failure, final) ∧
      FailsIn ⟨some maxDepth, host⟩ ⟨scope, "", []⟩ before statement after failure reached final
        raised ∧
      (∃ place, failure.span = some place ∧ place.Inside statement.span) ∧
      (raised.own = none → failure.span = raised.under.head?) := by
  cases parsed : Code.Program.parse code with
  | error error =>
      simp [interpret, interpretWithin, parsed] at failed
  | ok program =>
      have placed : program.Placed code := by
        have meets := Code.parse_meets code
        rwa [parsed] at meets
      rw [interpret_eq_ofRun parsed] at failed ⊢
      cases ran : program.run ⟨some maxDepth, host⟩ ⟨scope, "", []⟩ with
      | mk result final =>
          rw [ran] at failed
          cases result with
          | ok value => cases failed
          | error raised =>
              cases failed
              obtain ⟨before, statement, after, reached, raised, rfl, fails⟩ :=
                exists_failsIn placed ran
              exact ⟨before, statement, after, reached, final, raised, rfl, rfl, fails,
                fails.placed, fails.innermost⟩

/-- The operand of a sign is no number, in the body of a loop. -/
theorem interpret_failure_located_in_loop :
    (interpret Host.none "y = 'a'; for i in y \x7b x = -i \x7d; print()" .empty).result =
        .error (.runtime ⟨.typeMismatch .number "String", some ⟨22, 28⟩⟩) ∧
      ∃ before statement after reached final raised,
        Code.Program.parse "y = 'a'; for i in y \x7b x = -i \x7d; print()" =
          .ok (before ++ statement :: after) ∧
        interpret Host.none "y = 'a'; for i in y \x7b x = -i \x7d; print()" .empty =
          .ofRun (.error ⟨.typeMismatch .number "String", some ⟨22, 28⟩⟩, final) ∧
        FailsIn ⟨some maxDepth, Host.none⟩ ⟨.empty, "", []⟩ before statement after
          ⟨.typeMismatch .number "String", some ⟨22, 28⟩⟩ reached final raised ∧
        (∃ place : Span, some ⟨22, 28⟩ = some place ∧ place.Inside statement.span) ∧
        (raised.own = none → some ⟨22, 28⟩ = raised.under.head?) := by
  have parsed : Code.Program.parse "y = 'a'; for i in y \x7b x = -i \x7d; print()" =
      .ok [.assign "y" (.string "a") ⟨0, 7⟩,
        .loop "i" (.variable "y" ⟨18, 19⟩)
          [.assign "x" (.unary .negation (.variable "i" ⟨27, 28⟩)) ⟨22, 28⟩] ⟨9, 30⟩,
        .expr (.call (.variable "print" ⟨32, 37⟩) [] ⟨32, 39⟩) ⟨32, 39⟩] := rfl
  have failed :
      (interpret Host.none "y = 'a'; for i in y \x7b x = -i \x7d; print()" .empty).result =
        .error (.runtime ⟨.typeMismatch .number "String", some ⟨22, 28⟩⟩) := by
    rw [interpret_eq_ofRun parsed]
    rfl
  exact ⟨failed, interpret_failure_located failed⟩

end LiteratePages
