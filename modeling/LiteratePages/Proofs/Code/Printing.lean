import LiteratePages.Proofs.Code.Relocation

namespace LiteratePages.Code

/-- From the loosest to the tightest: `or`, `and`, equality, comparison, sums, products. -/
def Binary.rank : Binary → Nat
  | .or => 0
  | .and => 1
  | .equal | .unequal => 2
  | .less | .greater | .lessOrEqual | .greaterOrEqual => 3
  | .add | .subtract => 4
  | .multiply | .divide | .modulo => 5

namespace Expr

def isBinary : Expr → Bool
  | .binary .. => true
  | _ => false

def isOperation : Expr → Bool
  | .unary .. | .binary .. => true
  | _ => false

def isConnective : Expr → Bool
  | .binary .and _ _ | .binary .or _ _ => true
  | _ => false

def bindsBelow (op : Binary) : Expr → Bool
  | .binary inner _ _ => inner.rank < op.rank
  | _ => false

def bindsAtMost (op : Binary) : Expr → Bool
  | .binary inner _ _ => inner.rank ≤ op.rank
  | _ => false

end Expr

/-- Tokens with parentheses around them, where those are needed. -/
def enclose (needed : Bool) (tokens : List Token) : List Token :=
  if needed then .openParen :: tokens ++ [.closeParen] else tokens

mutual

/-- There is no printed form for a format string. -/
inductive Expr.Prints : Expr → List Token → Prop where
  | string (value : String) : Expr.Prints (.string value) [.string value]
  | number (value : Float) : Expr.Prints (.number value) [.number value]
  | boolean (value : Bool) : Expr.Prints (.boolean value) [.boolean value]
  | none : Expr.Prints .none [.none]
  | variable (name : String) (span : Span) : Expr.Prints (.variable name span) [.name name]
  | list {items : List Expr} {tokens : List Token} (inside : PrintsItems items tokens) :
      Expr.Prints (.list items) (.openBracket :: tokens ++ [.closeBracket])
  | map {entries : List (Expr × Expr)} {tokens : List Token}
      (inside : PrintsEntries entries tokens) :
      Expr.Prints (.map entries) (.openBrace :: tokens ++ [.closeBrace])
  | call {callee : Expr} {arguments : List Expr} {first tokens : List Token} (span : Span)
      (before : Expr.Prints callee first) (inside : PrintsItems arguments tokens) :
      Expr.Prints (.call callee arguments span)
        (enclose callee.isOperation first ++ .openParen :: tokens ++ [.closeParen])
  | index {target position : Expr} {first tokens : List Token} (span : Span)
      (before : Expr.Prints target first) (inside : Expr.Prints position tokens) :
      Expr.Prints (.index target position span)
        (enclose target.isOperation first ++ .openBracket :: tokens ++ [.closeBracket])
  | negation {operand : Expr} {tokens : List Token} (after : Expr.Prints operand tokens) :
      Expr.Prints (.unary .negation operand) (.minus :: enclose operand.isBinary tokens)
  | notSign {operand : Expr} {tokens : List Token} (after : Expr.Prints operand tokens) :
      Expr.Prints (.unary .logicalNot operand) (.not false :: enclose operand.isBinary tokens)
  -- As a word, `not` binds so loosely that parentheses of its own are around it.
  | notWord {operand : Expr} {tokens : List Token} (after : Expr.Prints operand tokens) :
      Expr.Prints (.unary .logicalNot operand)
        (enclose true (.not true :: enclose operand.isConnective tokens))
  | binary {op : Binary} {left right : Expr} {first second : List Token} {sign : Token}
      (worded : sign.binary? = some op) (before : Expr.Prints left first)
      (after : Expr.Prints right second) :
      Expr.Prints (.binary op left right)
        (enclose (left.bindsBelow op) first ++ sign :: enclose (right.bindsAtMost op) second)

/-- Expressions with commas between them. -/
inductive PrintsItems : List Expr → List Token → Prop where
  | none : PrintsItems [] []
  | one {e : Expr} {tokens : List Token} (last : Expr.Prints e tokens) : PrintsItems [e] tokens
  | more {e next : Expr} {rest : List Expr} {tokens others : List Token}
      (first : Expr.Prints e tokens) (later : PrintsItems (next :: rest) others) :
      PrintsItems (e :: next :: rest) (tokens ++ .comma :: others)

inductive PrintsEntries : List (Expr × Expr) → List Token → Prop where
  | none : PrintsEntries [] []
  | one {key value : Expr} {first second : List Token} (label : Expr.Prints key first)
      (last : Expr.Prints value second) : PrintsEntries [(key, value)] (first ++ .colon :: second)
  | more {key value : Expr} {next : Expr × Expr} {rest : List (Expr × Expr)}
      {first second others : List Token} (label : Expr.Prints key first)
      (item : Expr.Prints value second) (later : PrintsEntries (next :: rest) others) :
      PrintsEntries ((key, value) :: next :: rest) (first ++ .colon :: second ++ .comma :: others)

end

mutual

inductive Statement.Prints : Statement → List Token → Prop where
  | assign {value : Expr} {tokens : List Token} (name : String) (span : Span)
      (after : value.Prints tokens) :
      Statement.Prints (.assign name value span) (.name name :: .assign :: tokens)
  | expr {value : Expr} {tokens : List Token} (span : Span) (whole : value.Prints tokens) :
      Statement.Prints (.expr value span) tokens
  | cond {branches : List (Expr × List Statement)} {tokens : List Token} (span : Span)
      (whole : PrintsBranches branches tokens) : Statement.Prints (.cond branches none span) tokens
  | condElse {branches : List (Expr × List Statement)} {body : List Statement}
      {tokens block : List Token} (span : Span) (before : PrintsBranches branches tokens)
      (after : PrintsBlock body block) :
      Statement.Prints (.cond branches (some body) span) (tokens ++ .elseWord :: block)
  | loop {source : Expr} {body : List Statement} {tokens block : List Token} (name : String)
      (span : Span) (among : source.Prints tokens) (after : PrintsBlock body block) :
      Statement.Prints (.loop name source body span)
        (.forWord :: .name name :: .inWord :: tokens ++ block)

/-- One condition or more, with `else` between them. -/
inductive PrintsBranches : List (Expr × List Statement) → List Token → Prop where
  | one {condition : Expr} {body : List Statement} {tokens block : List Token}
      (test : condition.Prints tokens) (after : PrintsBlock body block) :
      PrintsBranches [(condition, body)] (.ifWord :: tokens ++ block)
  | more {condition : Expr} {body : List Statement} {rest : List (Expr × List Statement)}
      {tokens block others : List Token} (test : condition.Prints tokens)
      (after : PrintsBlock body block) (later : PrintsBranches rest others) :
      PrintsBranches ((condition, body) :: rest)
        (.ifWord :: tokens ++ block ++ .elseWord :: others)

inductive PrintsBlock : List Statement → List Token → Prop where
  | braces {body : List Statement} {tokens : List Token} (inside : PrintsBody body tokens) :
      PrintsBlock body (.openBrace :: tokens ++ [.closeBrace])

/-- Statements with semicolons between them. -/
inductive PrintsBody : List Statement → List Token → Prop where
  | none : PrintsBody [] []
  | one {statement : Statement} {tokens : List Token} (last : Statement.Prints statement tokens) :
      PrintsBody [statement] tokens
  | more {statement next : Statement} {rest : List Statement} {tokens others : List Token}
      (first : Statement.Prints statement tokens) (later : PrintsBody (next :: rest) others) :
      PrintsBody (statement :: next :: rest) (tokens ++ .semicolon :: others)

end

def Program.Prints (program : Program) (tokens : List Token) : Prop := PrintsBody program tokens

mutual

/-- Code without format strings. -/
def Expr.Plain : Expr → Prop
  | .string _ | .number _ | .boolean _ | .none | .variable .. => True
  | .format _ => False
  | .list items => PlainItems items
  | .map entries => PlainEntries entries
  | .call callee arguments _ => callee.Plain ∧ PlainItems arguments
  | .index target position _ => target.Plain ∧ position.Plain
  | .unary _ operand => operand.Plain
  | .binary _ left right => left.Plain ∧ right.Plain
termination_by structural e => e

def PlainItems : List Expr → Prop
  | [] => True
  | e :: rest => e.Plain ∧ PlainItems rest
termination_by structural es => es

def PlainEntries : List (Expr × Expr) → Prop
  | [] => True
  | (key, value) :: rest => key.Plain ∧ value.Plain ∧ PlainEntries rest
termination_by structural entries => entries

end

mutual

/-- Statements without format strings whose conditions all have a branch. -/
def Statement.Plain : Statement → Prop
  | .assign _ value _ => value.Plain
  | .expr value _ => value.Plain
  | .cond branches otherwise _ =>
      branches ≠ [] ∧ PlainBranches branches ∧
        (match otherwise with
          | some body => PlainBody body
          | none => True)
  | .loop _ source body _ => source.Plain ∧ PlainBody body
termination_by structural statement => statement

def PlainBranches : List (Expr × List Statement) → Prop
  | [] => True
  | (condition, body) :: rest => condition.Plain ∧ PlainBody body ∧ PlainBranches rest
termination_by structural branches => branches

def PlainBody : List Statement → Prop
  | [] => True
  | statement :: rest => statement.Plain ∧ PlainBody rest
termination_by structural statements => statements

end

def Program.Plain (program : Program) : Prop := PlainBody program

def Binary.sign : Binary → Token
  | .subtract => .minus
  | op => .operator op false

theorem Binary.binary?_sign (op : Binary) : op.sign.binary? = some op := by cases op <;> rfl

mutual

theorem Expr.exists_prints : (e : Expr) → e.Plain → ∃ tokens, e.Prints tokens
  | .string value, _ => ⟨_, .string value⟩
  | .number value, _ => ⟨_, .number value⟩
  | .boolean value, _ => ⟨_, .boolean value⟩
  | .none, _ => ⟨_, .none⟩
  | .variable name span, _ => ⟨_, .variable name span⟩
  | .list items, plain => by
      obtain ⟨_, inside⟩ := exists_printsItems items plain
      exact ⟨_, .list inside⟩
  | .map entries, plain => by
      obtain ⟨_, inside⟩ := exists_printsEntries entries plain
      exact ⟨_, .map inside⟩
  | .call callee arguments span, plain => by
      obtain ⟨_, before⟩ := callee.exists_prints plain.1
      obtain ⟨_, inside⟩ := exists_printsItems arguments plain.2
      exact ⟨_, .call span before inside⟩
  | .index target position span, plain => by
      obtain ⟨_, before⟩ := target.exists_prints plain.1
      obtain ⟨_, inside⟩ := position.exists_prints plain.2
      exact ⟨_, .index span before inside⟩
  | .unary .negation operand, plain => by
      obtain ⟨_, after⟩ := operand.exists_prints plain
      exact ⟨_, .negation after⟩
  | .unary .logicalNot operand, plain => by
      obtain ⟨_, after⟩ := operand.exists_prints plain
      exact ⟨_, .notSign after⟩
  | .binary op left right, plain => by
      obtain ⟨_, before⟩ := left.exists_prints plain.1
      obtain ⟨_, after⟩ := right.exists_prints plain.2
      exact ⟨_, .binary op.binary?_sign before after⟩
termination_by structural e => e

theorem exists_printsItems :
    (items : List Expr) → PlainItems items → ∃ tokens, PrintsItems items tokens
  | [], _ => ⟨_, .none⟩
  | e :: rest, plain => by
      obtain ⟨_, first⟩ := e.exists_prints plain.1
      obtain ⟨_, others⟩ := exists_printsItems rest plain.2
      cases rest with
      | nil => exact ⟨_, .one first⟩
      | cons next rest => exact ⟨_, .more first others⟩
termination_by structural items => items

theorem exists_printsEntries :
    (entries : List (Expr × Expr)) → PlainEntries entries → ∃ tokens, PrintsEntries entries tokens
  | [], _ => ⟨_, .none⟩
  | (key, value) :: rest, plain => by
      obtain ⟨_, label⟩ := key.exists_prints plain.1
      obtain ⟨_, item⟩ := value.exists_prints plain.2.1
      obtain ⟨_, others⟩ := exists_printsEntries rest plain.2.2
      cases rest with
      | nil => exact ⟨_, .one label item⟩
      | cons next rest => exact ⟨_, .more label item others⟩
termination_by structural entries => entries

end

mutual

theorem Statement.exists_prints :
    (statement : Statement) → statement.Plain → ∃ tokens, statement.Prints tokens
  | .assign name value span, plain => by
      obtain ⟨_, after⟩ := value.exists_prints plain
      exact ⟨_, .assign name span after⟩
  | .expr value span, plain => by
      obtain ⟨_, whole⟩ := value.exists_prints plain
      exact ⟨_, .expr span whole⟩
  | .cond branches none span, plain => by
      obtain ⟨_, whole⟩ := exists_printsBranches branches plain.1 plain.2.1
      exact ⟨_, .cond span whole⟩
  | .cond branches (some body) span, plain => by
      obtain ⟨_, before⟩ := exists_printsBranches branches plain.1 plain.2.1
      obtain ⟨_, inside⟩ := exists_printsBody body plain.2.2
      exact ⟨_, .condElse span before (.braces inside)⟩
  | .loop name source body span, plain => by
      obtain ⟨_, among⟩ := source.exists_prints plain.1
      obtain ⟨_, inside⟩ := exists_printsBody body plain.2
      exact ⟨_, .loop name span among (.braces inside)⟩
termination_by structural statement => statement

theorem exists_printsBranches : (branches : List (Expr × List Statement)) → branches ≠ [] →
    PlainBranches branches → ∃ tokens, PrintsBranches branches tokens
  | [], nonempty, _ => absurd rfl nonempty
  | (condition, body) :: rest, _, plain => by
      obtain ⟨_, test⟩ := condition.exists_prints plain.1
      obtain ⟨_, inside⟩ := exists_printsBody body plain.2.1
      have others := exists_printsBranches rest
      cases rest with
      | nil => exact ⟨_, .one test (.braces inside)⟩
      | cons next rest =>
          obtain ⟨_, later⟩ := others (List.cons_ne_nil next rest) plain.2.2
          exact ⟨_, .more test (.braces inside) later⟩
termination_by structural branches => branches

theorem exists_printsBody :
    (body : List Statement) → PlainBody body → ∃ tokens, PrintsBody body tokens
  | [], _ => ⟨_, .none⟩
  | statement :: rest, plain => by
      obtain ⟨_, first⟩ := statement.exists_prints plain.1
      obtain ⟨_, others⟩ := exists_printsBody rest plain.2
      cases rest with
      | nil => exact ⟨_, .one first⟩
      | cons next rest => exact ⟨_, .more first others⟩
termination_by structural body => body

end

end LiteratePages.Code
