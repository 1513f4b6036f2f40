import LiteratePages.Proofs.Code.Occurrences
import LiteratePages.Proofs.Code.Relocation
import LiteratePages.Proofs.Run.Actions
import LiteratePages.Proofs.Run.Faults
import LiteratePages.Proofs.Run.Relabeling

/-!
Runs of code side by side. A `Coupling` relates plain runs of code to computations of the same code,
in which places are moved and functions have other identities. It has to be kept by the actions
that running code is made of, and of these only by the ones that some code may do: the levels that
it reaches, the names that it reads and those that it gives values. What holds between the actions
then holds between the runs of all code in which no more than that occurs.
-/
namespace LiteratePages.Code

structure Coupling {m : Type → Type} [Monad m] (allowed : Occurrence → Prop) (move : Nat → Nat)
    (relabeling : Relabeling) (setting : Setting) (actions : Actions m) where
  Holds : {α : Type} → [Relabels α] → Run α → m α → Prop
  pure : ∀ {α : Type} [Relabels α] (value : α),
    Holds (Run.pure value) (Pure.pure (Relabels.relabel relabeling value))
  bind : ∀ {α β : Type} [Relabels α] [Relabels β] {first : Run α} {second : m α}
    {next : α → Run β} {follow : α → m β}, Holds first second →
    (∀ value, Holds (next value) (follow (Relabels.relabel relabeling value))) →
    Holds (first.bind next) (second >>= follow)
  fail : ∀ {α : Type} [Relabels α] {fault : Fault} (span : Option Span), fault ≠ .stackOverflow →
    Holds (Run.fail fault span : Run α) (actions.fail fault (span.map (Span.relocate move)))
  located : ∀ {first : Run Unit} {second : m Unit} (span : Span), Holds first second →
    Holds (Run.located span first) (actions.located (span.relocate move) second)
  set : ∀ name value, allowed (.write name) →
    Holds (Run.set name value) (actions.set name (value.relabel relabeling))
  print : ∀ (builtin : Builtin) arguments,
    Holds (Run.print (builtin.printed arguments)) (actions.print (builtin.printed arguments))
  lookup : ∀ name (span : Span), allowed (.read name) →
    Holds (Run.lookup name span) (actions.lookup name (span.relocate move))
  callHost : ∀ name identity arguments (span : Span),
    Holds (Run.callHost setting.host name identity arguments span)
      (actions.callHost name (relabeling.apply identity) (relabelItems relabeling arguments)
        (span.relocate move))
  within : ∀ {α : Type} [Relabels α] {first : Run α} {second : m α} (depth : Nat),
    allowed (.node depth) → Holds first second →
    Holds (setting.within depth first) (actions.within depth second)

namespace Coupling

variable {m : Type → Type} [Monad m] {allowed : Occurrence → Prop} {move : Nat → Nat}
  {relabeling : Relabeling} {setting : Setting} {actions : Actions m}
  (coupling : Coupling allowed move relabeling setting actions)

theorem lift {α : Type} [Relabels α] {result other : Except Fault α} (span : Option Span)
    (relabeled : other = result.map (Relabels.relabel relabeling)) (shallow : Shallow result) :
    coupling.Holds (Run.lift result span)
      (actions.lift other (span.map (Span.relocate move))) := by
  subst relabeled
  cases result with
  | ok value => exact coupling.pure value
  | error fault => exact coupling.fail span shallow

theorem call (callee : Value) (arguments : List Value) (span : Span) :
    coupling.Holds (Code.call setting callee arguments span)
      (actions.call (callee.relabel relabeling) (relabelItems relabeling arguments)
        (span.relocate move)) := by
  cases callee with
  | function function =>
      obtain ⟨target, identity⟩ := function
      cases target with
      | builtin builtin =>
          have result := coupling.lift (some span)
            (builtin.apply_relabel relabeling arguments) (builtin.apply_shallow arguments)
          rw [Code.call, Value.relabel, Actions.call, Builtin.printed_relabel]
          apply coupling.bind (coupling.print builtin arguments)
          intro _
          exact result
      | host name => exact coupling.callHost name identity arguments span
  | _ => exact coupling.fail (some span) fun same => Fault.noConfusion same

mutual

theorem eval (depth : Nat) : (e : Expr) → (∀ o ∈ e.occurrences depth, allowed o) →
    coupling.Holds (e.eval setting depth) ((e.relocate move).evalIn actions depth)
  | .string text, occurs =>
      coupling.within depth (List.forall_mem_cons.mp occurs).1 (coupling.pure (Value.string text))
  | .number value, occurs =>
      coupling.within depth (List.forall_mem_cons.mp occurs).1 (coupling.pure (Value.number value))
  | .boolean value, occurs =>
      coupling.within depth (List.forall_mem_cons.mp occurs).1 (coupling.pure (Value.boolean value))
  | .none, occurs =>
      coupling.within depth (List.forall_mem_cons.mp occurs).1 (coupling.pure Value.none)
  | .format pieces, occurs => by
      obtain ⟨here, inside⟩ := List.forall_mem_cons.mp occurs
      apply coupling.within depth here
      exact coupling.bind (evalPieces (depth + 1) "" pieces inside) fun text =>
        coupling.pure (Value.string text)
  | .list items, occurs => by
      obtain ⟨here, inside⟩ := List.forall_mem_cons.mp occurs
      apply coupling.within depth here
      exact coupling.bind (evalAll (depth + 1) items inside) fun values =>
        coupling.pure (Value.list values)
  | .map entries, occurs => by
      obtain ⟨here, inside⟩ := List.forall_mem_cons.mp occurs
      apply coupling.within depth here
      exact coupling.bind (evalEntries (depth + 1) [] entries inside) fun values =>
        coupling.pure (Value.map values)
  | .variable name span, occurs => by
      obtain ⟨here, inside⟩ := List.forall_mem_cons.mp occurs
      exact coupling.within depth here
        (coupling.lookup name span (inside _ List.mem_cons_self))
  | .call callee arguments span, occurs => by
      obtain ⟨here, inside⟩ := List.forall_mem_cons.mp occurs
      obtain ⟨function, others⟩ := List.forall_mem_append.mp inside
      apply coupling.within depth here
      apply coupling.bind (eval (depth + 1) callee function)
      intro called
      apply coupling.bind (evalAll (depth + 1) arguments others)
      intro values
      exact coupling.call called values span
  | .index target position span, occurs => by
      obtain ⟨here, inside⟩ := List.forall_mem_cons.mp occurs
      obtain ⟨whole, place⟩ := List.forall_mem_append.mp inside
      apply coupling.within depth here
      apply coupling.bind (eval (depth + 1) target whole)
      intro value
      apply coupling.bind (eval (depth + 1) position place)
      intro index
      exact coupling.lift (some span) (value.atIndex_relabel relabeling index)
        (value.atIndex_shallow index)
  | .unary op operand, occurs => by
      obtain ⟨here, inside⟩ := List.forall_mem_cons.mp occurs
      apply coupling.within depth here
      apply coupling.bind (eval (depth + 1) operand inside)
      intro value
      exact coupling.lift none (value.unary_relabel relabeling op) (value.unary_shallow op)
  | .binary op left right, occurs => by
      obtain ⟨here, inside⟩ := List.forall_mem_cons.mp occurs
      obtain ⟨first, second⟩ := List.forall_mem_append.mp inside
      -- Before the cases on the operator, so that the recursion is on a part of the expression.
      have other := eval (depth + 1) right second
      apply coupling.within depth here
      apply coupling.bind (eval (depth + 1) left first)
      intro value
      have truth : (Relabels.relabel relabeling value).truthy = value.truthy :=
        value.truthy_relabel relabeling
      rw [truth]
      cases op with
      | and =>
          cases value.truthy with
          | false => exact coupling.pure value
          | true => exact other
      | or =>
          cases value.truthy with
          | false => exact other
          | true => exact coupling.pure value
      | _ =>
          apply coupling.bind other
          intro second
          exact coupling.lift none (value.binary_relabel relabeling second _)
            (value.binary_shallow second _)
termination_by structural e => e

theorem evalAll (depth : Nat) : (es : List Expr) → (∀ o ∈ occurrencesOfAll depth es, allowed o) →
    coupling.Holds (Code.evalAll setting depth es)
      (evalAllIn actions depth (relocateAll move es))
  | [], _ => coupling.pure ([] : List Value)
  | e :: rest, occurs => by
      obtain ⟨first, later⟩ := List.forall_mem_append.mp occurs
      apply coupling.bind (eval depth e first)
      intro value
      apply coupling.bind (evalAll depth rest later)
      intro values
      exact coupling.pure (value :: values)
termination_by structural es => es

theorem evalEntries (depth : Nat) (before : Entries Value) : (entries : List (Expr × Expr)) →
    (∀ o ∈ occurrencesOfEntries depth entries, allowed o) →
      coupling.Holds (Code.evalEntries setting depth before entries)
        (evalEntriesIn actions depth (relabelEntries relabeling before)
          (relocateEntries move entries))
  | [], _ => coupling.pure before
  | (key, value) :: rest, occurs => by
      obtain ⟨first, others⟩ := List.forall_mem_append.mp occurs
      obtain ⟨second, later⟩ := List.forall_mem_append.mp others
      apply coupling.bind (eval depth key first)
      intro found
      cases found with
      | string text =>
          apply coupling.bind (eval depth value second)
          intro item
          have rest := evalEntries depth (before.insert text item) rest later
          rw [← Entries.insert_relabel] at rest
          exact rest
      | _ => exact coupling.fail none fun same => Fault.noConfusion same
termination_by structural entries => entries

theorem evalPieces (depth : Nat) (before : String) : (pieces : List Piece) →
    (∀ o ∈ occurrencesOfPieces depth pieces, allowed o) →
      coupling.Holds (Code.evalPieces setting depth before pieces)
        (evalPiecesIn actions depth before (relocatePieces move pieces))
  | [], _ => coupling.pure before
  | piece :: rest, occurs => by
      obtain ⟨first, later⟩ := List.forall_mem_append.mp occurs
      apply coupling.bind (evalPiece depth piece first)
      intro text
      exact evalPieces depth (before ++ text) rest later
termination_by structural pieces => pieces

theorem evalPiece (depth : Nat) : (piece : Piece) → (∀ o ∈ piece.occurrences depth, allowed o) →
    coupling.Holds (piece.eval setting depth) ((piece.relocate move).evalIn actions depth)
  | .text text, _ => coupling.pure text
  | .code e, occurs => by
      apply coupling.bind (eval depth e occurs)
      intro value
      change coupling.Holds _ (Pure.pure (value.relabel relabeling).display)
      rw [value.display_relabel relabeling]
      exact coupling.pure value.display
termination_by structural piece => piece

end

theorem iterate (name : String) (written : allowed (.write name)) {body : Run Unit} {other : m Unit}
    (related : coupling.Holds body other) (items : List Value) :
    coupling.Holds (Code.iterate name body items)
      (iterateIn actions name other (relabelItems relabeling items)) := by
  induction items with
  | nil => exact coupling.pure ()
  | cons item rest ih =>
      rw [Code.iterate, relabelItems, iterateIn]
      refine coupling.bind (coupling.set name item written) fun _ => ?_
      exact coupling.bind related fun _ => ih

mutual

theorem exec (depth : Nat) : (statement : Statement) →
    (∀ o ∈ statement.occurrences depth, allowed o) →
      coupling.Holds (statement.exec setting depth)
        ((statement.relocate move).execIn actions depth)
  | .assign name value _, occurs => by
      obtain ⟨written, inside⟩ := List.forall_mem_cons.mp occurs
      apply coupling.bind (coupling.eval (depth + 1) value inside)
      intro result
      exact coupling.set name result written
  | .expr value _, occurs => by
      apply coupling.bind (coupling.eval (depth + 1) value occurs)
      intro _
      exact coupling.pure ()
  | .cond branches none _, occurs =>
      execBranches depth (coupling.pure ()) branches (List.forall_mem_append.mp occurs).1
  | .cond branches (some body) _, occurs => by
      obtain ⟨before, last⟩ := List.forall_mem_append.mp occurs
      obtain ⟨level, inside⟩ := List.forall_mem_cons.mp last
      have otherwise := coupling.within (depth + 1) level (execAll (depth + 1) body inside)
      exact execBranches depth otherwise branches before
  | .loop name source body _, occurs => by
      obtain ⟨written, others⟩ := List.forall_mem_cons.mp occurs
      obtain ⟨inSource, last⟩ := List.forall_mem_append.mp others
      obtain ⟨level, inBody⟩ := List.forall_mem_cons.mp last
      have turn := coupling.within (depth + 1) level (execAll (depth + 1) body inBody)
      apply coupling.bind (coupling.eval (depth + 1) source inSource)
      intro value
      apply coupling.bind
        (coupling.lift none (value.iterate_relabel relabeling) value.iterate_shallow)
      intro items
      exact coupling.iterate name written turn items
termination_by structural statement => statement

theorem execBranches (depth : Nat) {otherwise : Run Unit} {other : m Unit}
    (related : coupling.Holds otherwise other) : (branches : List (Expr × List Statement)) →
    (∀ o ∈ occurrencesOfBranches depth branches, allowed o) →
      coupling.Holds (Code.execBranches setting depth branches otherwise)
        (execBranchesIn actions depth (relocateBranches move branches) other)
  | [], _ => related
  | (condition, body) :: rest, occurs => by
      obtain ⟨inCondition, others⟩ := List.forall_mem_append.mp occurs
      obtain ⟨level, others⟩ := List.forall_mem_cons.mp others
      obtain ⟨inBody, later⟩ := List.forall_mem_append.mp others
      have inside := coupling.within (depth + 1) level (execAll (depth + 1) body inBody)
      have outside := execBranches depth related rest later
      apply coupling.bind (coupling.eval (depth + 1) condition inCondition)
      intro value
      have truth : (Relabels.relabel relabeling value).truthy = value.truthy :=
        value.truthy_relabel relabeling
      rw [truth]
      cases value.truthy with
      | true => exact inside
      | false => exact outside
termination_by structural branches => branches

theorem execAll (depth : Nat) : (statements : List Statement) →
    (∀ o ∈ occurrencesOfBody depth statements, allowed o) →
      coupling.Holds (Code.execAll setting depth statements)
        (execAllIn actions depth (relocateBody move statements))
  | [], _ => coupling.pure ()
  | statement :: rest, occurs => by
      obtain ⟨inFirst, later⟩ := List.forall_mem_append.mp occurs
      have first := coupling.located statement.span (exec depth statement inFirst)
      rw [← Statement.span_relocate] at first
      exact coupling.bind first fun _ => execAll depth rest later
termination_by structural statements => statements

end

theorem run (program : Program) (occurs : ∀ o ∈ program.occurrences, allowed o) :
    coupling.Holds (program.run setting) ((program.relocate move).runIn actions) := by
  obtain ⟨level, inside⟩ := List.forall_mem_cons.mp occurs
  exact coupling.within 0 level (coupling.execAll 0 program inside)

end Coupling
end LiteratePages.Code
