import AdapterGen.Code.Block
import AdapterGen.Proofs.Java.Expression

/-!
# Statements of Java code

    stmt  ::= type? word "=" expr ";" | expr ";" | "{" stmt* "}" | "if" test stmt
            | "while" test stmt | "switch" test "{" stmt* "}" | "case" literal ":" | "default" ":"
            | "break" ";" | "throw" expr ";" | "return" expr ";"
    test  ::= "(" expr ")"

The lines of a block of code are read as a list of statements.

## Implementation notes

What stands in front of an equals sign decides whether a local is declared or
set, before any word is looked at. The declared type and the modifiers are
dropped, because nothing that runs depends on them.

-/

namespace AdapterGen.Java

open Code

/-- A statement. A label is a statement of its own. -/
inductive Stmt where
  | declare (name : String) (value : Expr)
  | assign (name : String) (value : Expr)
  | exec (value : Expr)
  | block (body : List Stmt)
  | ifThen (test : Expr) (body : Stmt)
  | whileLoop (test : Expr) (body : Stmt)
  | switchOn (value : Expr) (body : List Stmt)
  /-- The label of a case, or the default label. -/
  | label (key : Option String)
  | breakOut
  | throwing (value : Expr)
  | returning (value : Expr)

/-- A token of a type, or of the modifiers in front of it. -/
def isTypeToken : Token → Bool
  | .word _ => true
  | .sign c => ".<>,?[]".toList.contains c
  | _ => false

/-- The statement that gives a value to what stands in front of the equals sign. Fields of
objects are not set. -/
def setting? (front : List Token) (value : Expr) : Option Stmt :=
  match front.reverse with
  | .word x :: type =>
      if x ∈ reservedWords ∨ type.head? = some (.sign '.') then none
      else some (if type.isEmpty then .assign x value else .declare x value)
  | _ => none

/-- Reads an expression and one given token behind it. -/
def readUpTo? (t : Token) (readExpr? : Reader Expr) : Reader Expr := fun ts => do
  let (e, rest) ← readExpr? ts
  let after ← expect? t rest
  return (e, after)

/-- Reads an expression in parentheses. -/
def readTest? (readExpr? : Reader Expr) : Reader Expr := fun ts =>
  expect? (.sign '(') ts >>= readUpTo? (.sign ')') readExpr?

/-- Reads a statement that begins with a word, behind that word. -/
def readLed? (readExpr? : Reader Expr) (readStmt? : Reader Stmt) (readStmts? : Reader (List Stmt))
    (w : String) (ts : List Token) : Option (Stmt × List Token) :=
  if w = "if" then do
    let (test, rest) ← readTest? readExpr? ts
    let (body, after) ← readStmt? rest
    return (.ifThen test body, after)
  else if w = "while" then do
    let (test, rest) ← readTest? readExpr? ts
    let (body, after) ← readStmt? rest
    return (.whileLoop test body, after)
  else if w = "switch" then do
    let (value, rest) ← readTest? readExpr? ts
    let (body, after) ← expect? (.sign '{') rest >>= readStmts?
    return (.switchOn value body, after)
  else if w = "case" then
    match ts with
    | .literal key :: rest => (expect? (.sign ':') rest).map fun after => (.label (some key), after)
    | _ => none
  else if w = "default" then (expect? (.sign ':') ts).map fun after => (.label none, after)
  else if w = "break" then (expect? (.sign ';') ts).map fun after => (.breakOut, after)
  else if w = "throw" then
    (readUpTo? (.sign ';') readExpr? ts).map fun read => (.throwing read.1, read.2)
  else if w = "return" then
    (readUpTo? (.sign ';') readExpr? ts).map fun read => (.returning read.1, read.2)
  else (readUpTo? (.sign ';') readExpr? (.word w :: ts)).map fun read => (.exec read.1, read.2)

/-- Reads a statement that sets nothing. -/
def readOther? (readExpr? : Reader Expr) (readStmt? : Reader Stmt)
    (readStmts? : Reader (List Stmt)) : Reader Stmt
  | .sign '{' :: rest => (readStmts? rest).map fun read => (.block read.1, read.2)
  | .word w :: rest => readLed? readExpr? readStmt? readStmts? w rest
  | _ => none

mutual

/-- Reads a statement. The fuel bounds the nesting; two more than four times the number of tokens
is enough. -/
def readStmt? : Nat → Reader Stmt
  | 0, _ => none
  | fuel + 1, ts =>
      match ts.dropWhile isTypeToken with
      | .sign '=' :: rest => do
          let (value, after) ← readUpTo? (.sign ';') (readExpr? fuel) rest
          let set ← setting? (ts.takeWhile isTypeToken) value
          return (set, after)
      | _ => readOther? (readExpr? fuel) (readStmt? fuel) (readStmts? fuel) ts

/-- Reads statements up to and with the closing brace. -/
def readStmts? : Nat → Reader (List Stmt)
  | 0, _ => none
  | fuel + 1, ts =>
      match ts with
      | .sign '}' :: after => some ([], after)
      | ts => do
          let (first, rest) ← readStmt? fuel ts
          let (others, after) ← readStmts? fuel rest
          return (first :: others, after)

end

/-- The statements that the lines of a method's body spell. -/
def readBody? (body : Block) : Option (List Stmt) := do
  let ts ← tokens? (Text.concat (body.lines.map fun line => line.text ++ "\n"))
  let (program, rest) ← readStmts? (4 * ts.length + 3) (ts ++ [Token.sign '}'])
  if rest.isEmpty then return program else none

/-! ### Reading the forms -/

/-- Tokens that are read as a statement in front of anything. -/
def StmtReads (s : Stmt) (ts : List Token) : Prop :=
  ∀ fuel rest, 4 * ts.length + 2 ≤ fuel → readStmt? fuel (ts ++ rest) = some (s, rest)

/-- Tokens that are read as statements one after another. -/
inductive StmtsRead : List Stmt → List Token → Prop
  | nil : StmtsRead [] []
  | cons {s : Stmt} {ss : List Stmt} {ts us : List Token} :
      StmtReads s ts → StmtsRead ss us → StmtsRead (s :: ss) (ts ++ us)

theorem StmtReads.single {s : Stmt} {ts : List Token} (reads : StmtReads s ts) :
    StmtsRead [s] ts := by
  simpa using StmtsRead.cons reads .nil

theorem StmtsRead.append {ss rs : List Stmt} {ts us : List Token} (front : StmtsRead ss ts)
    (back : StmtsRead rs us) : StmtsRead (ss ++ rs) (ts ++ us) := by
  induction front with
  | nil => exact back
  | cons reads _ ih =>
      rw [List.append_assoc]
      exact .cons reads ih

theorem StmtReads.exists_cons {s : Stmt} {ts : List Token} (reads : StmtReads s ts) :
    ∃ t more, ts = t :: more ∧ t ≠ .sign '}' := by
  have read := reads _ [.sign '}'] (Nat.le_refl _)
  cases ts with
  | nil => simp [readStmt?, isTypeToken, readOther?] at read
  | cons t more =>
      refine ⟨t, more, rfl, ?_⟩
      rintro rfl
      simp [readStmt?, isTypeToken, readOther?] at read

/-- Statements are read up to the brace behind them. -/
theorem StmtsRead.readStmts? {ss : List Stmt} {ts : List Token} (read : StmtsRead ss ts)
    (fuel : Nat) (rest : List Token) (enough : 4 * ts.length + 3 ≤ fuel) :
    readStmts? fuel (ts ++ Token.sign '}' :: rest) = some (ss, rest) := by
  induction read generalizing fuel with
  | nil =>
      obtain ⟨fuel, rfl⟩ : ∃ n, fuel = n + 1 := ⟨fuel - 1, by omega⟩
      simp [Java.readStmts?]
  | @cons s ss ts us reads _ ih =>
      obtain ⟨t, more, rfl, opens⟩ := reads.exists_cons
      simp only [List.length_append, List.length_cons] at enough
      obtain ⟨fuel, rfl⟩ : ∃ n, fuel = n + 1 := ⟨fuel - 1, by omega⟩
      have first := reads fuel (us ++ Token.sign '}' :: rest) (by simp; omega)
      have others := ih fuel (by omega)
      rw [List.append_assoc, List.cons_append] at *
      rw [Java.readStmts?, first]
      · simp [others]
      · exact fun after shape => opens (List.cons.inj shape).1

theorem readUpTo?_of_exprReads {e : Expr} {ts : List Token} (reads : ExprReads e ts) {t : Token}
    (ends : endsExpr t = true) (fuel : Nat) (enough : 4 * ts.length + 1 ≤ fuel)
    (rest : List Token) : readUpTo? t (readExpr? fuel) (ts ++ t :: rest) = some (e, rest) := by
  simp [readUpTo?, reads fuel (t :: rest) enough (begins_cons ends rest), expect?]

theorem readTest?_of_exprReads {e : Expr} {ts : List Token} (reads : ExprReads e ts) (fuel : Nat)
    (enough : 4 * ts.length + 1 ≤ fuel) (rest : List Token) :
    readTest? (readExpr? fuel) (.sign '(' :: (ts ++ Token.sign ')' :: rest)) = some (e, rest) := by
  simp [readTest?, expect?, readUpTo?_of_exprReads reads (t := .sign ')') rfl fuel enough]

/-- What the tokens of a type are followed by is no equals sign. -/
def SetsNothing (ts : List Token) : Prop :=
  ∃ t more, ts.dropWhile isTypeToken = t :: more ∧ t ≠ .sign '='

theorem SetsNothing.append {ts : List Token} (nothing : SetsNothing ts) (rest : List Token) :
    SetsNothing (ts ++ rest) := by
  obtain ⟨t, more, shape, noEquals⟩ := nothing
  refine ⟨t, more ++ rest, ?_, noEquals⟩
  rw [List.dropWhile_append, shape]
  rfl

theorem setsNothing_append_iff {types ts : List Token}
    (areTypes : ∀ t ∈ types, isTypeToken t = true) :
    SetsNothing (types ++ ts) ↔ SetsNothing ts := by
  simp [SetsNothing, List.dropWhile_append_of_pos areTypes]

theorem isTypeToken_of_mem_pathTokens {path : List String} :
    ∀ t ∈ pathTokens path, isTypeToken t = true := by
  induction path with
  | nil => simp [pathTokens]
  | cons w ws ih =>
      cases ws with
      | nil => simp [pathTokens, isTypeToken]
      | cons next ws =>
          intro t found
          simp only [pathTokens, List.mem_cons] at found
          rcases found with rfl | rfl | later
          · rfl
          · decide
          · exact ih t later

/-- A statement that sets nothing and begins with a word is read by that word. -/
theorem StmtReads.led {s : Stmt} {w : String} {ts : List Token}
    (nothing : SetsNothing (.word w :: ts))
    (reads : ∀ fuel rest, 4 * ts.length + 5 ≤ fuel →
      readLed? (readExpr? fuel) (readStmt? fuel) (readStmts? fuel) w (ts ++ rest) =
        some (s, rest)) :
    StmtReads s (.word w :: ts) := by
  intro fuel rest enough
  simp only [List.length_cons] at enough
  obtain ⟨fuel, rfl⟩ : ∃ n, fuel = n + 1 := ⟨fuel - 1, by omega⟩
  obtain ⟨t, more, shape, noEquals⟩ := nothing.append rest
  rw [readStmt?, shape]
  split
  · rename_i same
    exact absurd (List.cons.inj same).1 noEquals
  · exact reads fuel rest (by omega)

theorem StmtReads.set {front ts : List Token} {s : Stmt} {value : Expr}
    (areTypes : ∀ t ∈ front, isTypeToken t = true) (reads : ExprReads value ts)
    (isSetting : setting? front value = some s) :
    StmtReads s (front ++ Token.sign '=' :: (ts ++ [Token.sign ';'])) := by
  intro fuel rest enough
  simp only [List.length_append, List.length_cons] at enough
  obtain ⟨fuel, rfl⟩ : ∃ n, fuel = n + 1 := ⟨fuel - 1, by omega⟩
  have read := readUpTo?_of_exprReads reads (t := .sign ';') rfl fuel (by omega) rest
  have noType : isTypeToken (.sign '=') = false := by decide
  simp only [List.append_assoc, List.cons_append, List.nil_append]
  rw [readStmt?, List.dropWhile_append_of_pos areTypes, List.takeWhile_append_of_pos areTypes]
  simp [noType, read, isSetting]

theorem StmtReads.assign {x : String} {value : Expr} {ts : List Token}
    (free : x ∉ reservedWords) (reads : ExprReads value ts) :
    StmtReads (.assign x value) (.word x :: .sign '=' :: (ts ++ [Token.sign ';'])) :=
  have isSetting : setting? [.word x] value = some (.assign x value) := by simp [setting?, free]
  StmtReads.set (by simp [isTypeToken]) reads isSetting

theorem StmtReads.declare {type : List Token} {last : Token} {x : String} {value : Expr}
    {ts : List Token} (areTypes : ∀ t ∈ type ++ [last], isTypeToken t = true)
    (noDot : last ≠ .sign '.') (free : x ∉ reservedWords)
    (reads : ExprReads value ts) :
    StmtReads (.declare x value)
      (type ++ last :: .word x :: .sign '=' :: (ts ++ [Token.sign ';'])) := by
  have front : ∀ t ∈ type ++ [last, .word x], isTypeToken t = true := by
    intro t found
    simp only [List.mem_append, List.mem_cons, List.not_mem_nil, or_false] at found areTypes
    rcases found with inType | rfl | rfl
    · exact areTypes t (.inl inType)
    · exact areTypes t (.inr rfl)
    · rfl
  have isSetting : setting? (type ++ [last, .word x]) value = some (.declare x value) := by
    simp [setting?, free, noDot]
  simpa using StmtReads.set front reads isSetting

theorem StmtReads.block {body : List Stmt} {ts : List Token} (read : StmtsRead body ts) :
    StmtReads (.block body) (.sign '{' :: (ts ++ [Token.sign '}'])) := by
  intro fuel rest enough
  simp only [List.length_append, List.length_cons] at enough
  obtain ⟨fuel, rfl⟩ : ∃ n, fuel = n + 1 := ⟨fuel - 1, by omega⟩
  have inner := read.readStmts? fuel rest (by omega)
  have noType : isTypeToken (.sign '{') = false := by decide
  simp [readStmt?, noType, readOther?, inner]

theorem StmtReads.ifThen {test : Expr} {body : Stmt} {ts us : List Token}
    (readsTest : ExprReads test ts) (readsBody : StmtReads body us) :
    StmtReads (.ifThen test body) (.word "if" :: .sign '(' :: (ts ++ Token.sign ')' :: us)) := by
  refine StmtReads.led ⟨_, _, rfl, by simp⟩ ?_
  intro fuel rest enough
  simp only [List.length_append, List.length_cons] at enough
  have inner := readTest?_of_exprReads readsTest fuel (by omega) (us ++ rest)
  have after := readsBody fuel rest (by omega)
  simp [readLed?, inner, after]

theorem StmtReads.whileLoop {test : Expr} {body : Stmt} {ts us : List Token}
    (readsTest : ExprReads test ts) (readsBody : StmtReads body us) :
    StmtReads (.whileLoop test body)
      (.word "while" :: .sign '(' :: (ts ++ Token.sign ')' :: us)) := by
  refine StmtReads.led ⟨_, _, rfl, by simp⟩ ?_
  intro fuel rest enough
  simp only [List.length_append, List.length_cons] at enough
  have inner := readTest?_of_exprReads readsTest fuel (by omega) (us ++ rest)
  have after := readsBody fuel rest (by omega)
  simp [readLed?, inner, after]

theorem StmtReads.switchOn {value : Expr} {body : List Stmt} {ts us : List Token}
    (readsValue : ExprReads value ts) (readsBody : StmtsRead body us) :
    StmtReads (.switchOn value body)
      (.word "switch" :: .sign '(' ::
        (ts ++ Token.sign ')' :: .sign '{' :: (us ++ [Token.sign '}']))) := by
  refine StmtReads.led ⟨_, _, rfl, by simp⟩ ?_
  intro fuel rest enough
  simp only [List.length_append, List.length_cons] at enough
  have inner := readTest?_of_exprReads readsValue fuel (by omega)
    (.sign '{' :: (us ++ Token.sign '}' :: rest))
  have after := readsBody.readStmts? fuel rest (by omega)
  simp [readLed?, inner, expect?, after]

theorem StmtReads.caseLabel (key : String) :
    StmtReads (.label (some key)) [.word "case", .literal key, .sign ':'] :=
  StmtReads.led ⟨_, _, rfl, by simp⟩ fun _ _ _ => by simp [readLed?, expect?]

theorem StmtReads.defaultLabel : StmtReads (.label none) [.word "default", .sign ':'] :=
  StmtReads.led ⟨_, _, rfl, by simp⟩ fun _ _ _ => by simp [readLed?, expect?]

theorem StmtReads.breakOut : StmtReads .breakOut [.word "break", .sign ';'] :=
  StmtReads.led ⟨_, _, rfl, by simp⟩ fun _ _ _ => by simp [readLed?, expect?]

/-- A call that stands by itself. -/
theorem StmtReads.exec {w : String} (ws : List String) {args : List Expr} {ts : List Token}
    (free : w ∉ reservedWords) (reads : ArgsRead args ts) :
    StmtReads (.exec (.call (w :: ws) args))
      (pathTokens (w :: ws) ++ Token.sign '(' :: (ts ++ [Token.sign ';'])) := by
  have call := (OperandReads.call (List.cons_ne_nil w ws) (beginsReserved_cons free ws) reads).expr
  have opening : SetsNothing (.sign '(' :: (ts ++ [Token.sign ';'])) := ⟨_, _, rfl, by simp⟩
  have nothing : SetsNothing (pathTokens (w :: ws) ++ Token.sign '(' :: (ts ++ [Token.sign ';'])) :=
    (setsNothing_append_iff isTypeToken_of_mem_pathTokens).mpr opening
  obtain ⟨more, shape⟩ := pathTokens_cons w ws
  have keywords : ∀ k ∈ ["if", "while", "switch", "case", "default", "break", "throw", "return"],
      k ∈ reservedWords := by simp [reservedWords]
  have noKeyword : ∀ k ∈ ["if", "while", "switch", "case", "default", "break", "throw", "return"],
      w ≠ k := fun k isKeyword same => free (same ▸ keywords k isKeyword)
  simp only [List.forall_mem_cons, ne_eq, List.not_mem_nil, false_implies, implies_true,
    and_true] at noKeyword
  rw [shape, List.cons_append] at call nothing ⊢
  refine StmtReads.led nothing ?_
  intro fuel rest enough
  simp only [List.length_append, List.length_cons, List.length_nil] at enough
  have read := readUpTo?_of_exprReads call (t := .sign ';') rfl fuel (by simp; omega) rest
  simp only [List.append_assoc, List.cons_append, List.nil_append] at read ⊢
  simp [readLed?, noKeyword, read]

theorem StmtReads.throwing {value : Expr} {ts : List Token} (reads : ExprReads value ts)
    (nothing : SetsNothing ts) :
    StmtReads (.throwing value) (.word "throw" :: (ts ++ [Token.sign ';'])) := by
  refine StmtReads.led (nothing.append _) ?_
  intro fuel rest enough
  simp only [List.length_append] at enough
  have read := readUpTo?_of_exprReads reads (t := .sign ';') rfl fuel (by omega) rest
  simp [readLed?, read]

theorem StmtReads.returning {value : Expr} {ts : List Token} (reads : ExprReads value ts)
    (nothing : SetsNothing ts) :
    StmtReads (.returning value) (.word "return" :: (ts ++ [Token.sign ';'])) := by
  refine StmtReads.led (nothing.append _) ?_
  intro fuel rest enough
  simp only [List.length_append] at enough
  have read := readUpTo?_of_exprReads reads (t := .sign ';') rfl fuel (by omega) rest
  simp [readLed?, read]

end AdapterGen.Java
