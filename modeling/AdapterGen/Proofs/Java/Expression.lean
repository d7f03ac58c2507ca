import AdapterGen.PrimitiveKind
import AdapterGen.Proofs.Java.Token
import AdapterGen.Text.Segments

/-!
# Expressions of Java code

    expr    ::= operand ("==" operand)? ("?" expr ":" expr)?
    operand ::= literal | "null" | name | name dims? ".class" | name "(" args? ")"
              | name ".<" word ">" word "(" args? ")" | "new" name "(" args? ")"
              | "(" primitive ")" operand | "(" expr ")"
    args    ::= expr ("," expr)*

## Implementation notes

The name in front of `.class` may be a reserved word, because the keywords of
primitive types are. The type argument of a call is read and dropped. What is
read in front of a token that ends it is stated once per form, and forms are
put together from these statements.

-/

namespace AdapterGen.Java

/-- An expression. -/
inductive Expr where
  | null
  | literal (value : String)
  /-- A variable, or a constant by its dotted name. -/
  | name (path : List String)
  /-- The class literal of a type. -/
  | classOf (type : String)
  /-- A call; the last segment of the name is the method. -/
  | call (path : List String) (args : List Expr)
  | create (type : String) (args : List Expr)
  | cast (kind : PrimitiveKind) (operand : Expr)
  | same (left right : Expr)
  | choose (test yes no : Expr)

/-- The reserved words, which name no variable. -/
def reservedWords : List String :=
  ["abstract", "assert", "boolean", "break", "byte", "case", "catch", "char", "class", "const",
    "continue", "default", "do", "double", "else", "enum", "extends", "final", "finally", "float",
    "for", "goto", "if", "implements", "import", "instanceof", "int", "interface", "long",
    "native", "new", "package", "private", "protected", "public", "return", "short", "static",
    "strictfp", "super", "switch", "synchronized", "this", "throw", "throws", "transient", "try",
    "void", "volatile", "while", "true", "false", "null"]

/-- The name of a variable. Every identifier of the language is one, since what may stand in a
word includes what may stand in an identifier. -/
structure IsIdentifier (name : String) : Prop extends IsWord name where
  noDigit : ∀ c, name.toList.head? = some c → c.isDigit = false
  free : name ∉ reservedWords

instance (name : String) : Decidable (IsIdentifier name) :=
  decidable_of_iff
    (IsWord name ∧
      ((name.toList.head?.all fun c => !c.isDigit) && !reservedWords.contains name) = true)
    ⟨fun h => by
      obtain ⟨isWord, first⟩ := h
      simp only [Bool.and_eq_true, Option.all_eq_true, Bool.not_eq_true', List.contains_eq_mem,
        decide_eq_false_iff_not] at first
      exact ⟨isWord, first.1, first.2⟩,
    fun h => by
      simp only [Bool.and_eq_true, Option.all_eq_true, Bool.not_eq_true', List.contains_eq_mem,
        decide_eq_false_iff_not]
      exact ⟨h.toIsWord, h.noDigit, h.free⟩⟩

/-- Identifiers with dots between them. -/
def IsQualifiedName (name : String) : Prop :=
  ∀ segment ∈ Text.splitAt '.' name, IsIdentifier segment

instance (name : String) : Decidable (IsQualifiedName name) :=
  inferInstanceAs (Decidable (∀ segment ∈ Text.splitAt '.' name, IsIdentifier segment))

/-- Reads something from the front of a token list. -/
abbrev Reader (α : Type) := List Token → Option (α × List Token)

/-- What stands behind one given token. -/
def expect? (t : Token) : List Token → Option (List Token)
  | [] => none
  | u :: rest => if u = t then some rest else none

/-- Reads words with dots between them. -/
def readPath? : Reader (List String)
  | .word w :: .sign '.' :: rest =>
      match readPath? rest with
      | some (ws, after) => some (w :: ws, after)
      | none => some ([w], .sign '.' :: rest)
  | .word w :: rest => some ([w], rest)
  | _ => none

/-- Reads pairs of brackets, and counts them. -/
def readDims : List Token → Nat × List Token
  | .sign '[' :: .sign ']' :: rest =>
      let (levels, after) := readDims rest
      (levels + 1, after)
  | rest => (0, rest)

/-- Whether a dotted name begins with a reserved word. -/
def beginsReserved (path : List String) : Bool :=
  path.head?.any reservedWords.contains

theorem beginsReserved_cons {x : String} (free : x ∉ reservedWords) (path : List String) :
    beginsReserved (x :: path) = false := by
  simp [beginsReserved, free]

/-- The expression that a dotted name is by itself. -/
def ofPath? (path : List String) : Option Expr :=
  if path = ["null"] then some .null
  else if path.getLast? = some "class" ∧ 1 < path.length then
    some (.classOf (Text.join "." path.dropLast))
  else if beginsReserved path then none
  else some (.name path)

/-- Reads what follows a dotted name, the arguments of a call by the given reader. -/
def followPath? (readArgs? : Reader (List Expr)) (path : List String) : Reader Expr
  | .sign '(' :: rest =>
      if beginsReserved path then none
      else do
        let (args, after) ← readArgs? rest
        return (.call path args, after)
  | .sign '.' :: .sign '<' :: .word _ :: .sign '>' :: .word method :: .sign '(' :: rest =>
      if beginsReserved path then none
      else do
        let (args, after) ← readArgs? rest
        return (.call (path ++ [method]) args, after)
  | .sign '[' :: rest =>
      match readDims (.sign '[' :: rest) with
      | (levels, .sign '.' :: .word w :: after) =>
          if w = "class" then
            some (.classOf (Text.join "." path ++ Text.repeated levels "[]"), after)
          else none
      | _ => none
  | .word w :: rest =>
      if path = ["new"] then do
        let (type, opening) ← readPath? (.word w :: rest)
        let (args, after) ← expect? (.sign '(') opening >>= readArgs?
        return (.create (Text.join "." type) args, after)
      else none
  | rest => (ofPath? path).map (·, rest)

/-- The primitive type in the parentheses of a cast, behind the opening one. -/
def castOf? : List Token → Option (PrimitiveKind × List Token)
  | .word w :: .sign ')' :: rest => (PrimitiveKind.ofKeyword? w).map (·, rest)
  | _ => none

/-- Reads the right side of a comparison, if there is one. -/
def compareOf? (readOperand? : Reader Expr) (left : Expr) : Reader Expr
  | .equal :: rest => (readOperand? rest).map fun right => (.same left right.1, right.2)
  | rest => some (left, rest)

/-- Reads what follows an argument, up to and with the closing parenthesis. -/
def followArg? (readArgs? : Reader (List Expr)) (first : Expr) : Reader (List Expr)
  | .sign ')' :: after => some ([first], after)
  | .sign ',' :: more => do
      let (others, after) ← readArgs? more
      if others.isEmpty then none else return (first :: others, after)
  | _ => none

/-- Reads the two choices of a test, if there are any. -/
def chooseOf? (readExpr? : Reader Expr) (test : Expr) : Reader Expr
  | .sign '?' :: rest => do
      let (yes, colon) ← readExpr? rest
      let (no, after) ← expect? (.sign ':') colon >>= readExpr?
      return (.choose test yes no, after)
  | rest => some (test, rest)

mutual

/-- Reads an operand. The fuel bounds the nesting; four times the number of tokens is enough. -/
def readOperand? : Nat → Reader Expr
  | 0, _ => none
  | fuel + 1, ts =>
      match ts with
      | .literal value :: rest => some (.literal value, rest)
      | .sign '(' :: rest =>
          match castOf? rest with
          | some (kind, operand) =>
              (readOperand? fuel operand).map fun read => (.cast kind read.1, read.2)
          | none => do
              let (inner, closing) ← readExpr? fuel rest
              let after ← expect? (.sign ')') closing
              return (inner, after)
      | ts => do
          let (path, rest) ← readPath? ts
          followPath? (readArgs? fuel) path rest

/-- Reads an expression. -/
def readExpr? : Nat → Reader Expr
  | 0, _ => none
  | fuel + 1, ts => do
      let (left, rest) ← readOperand? fuel ts
      let (test, rest) ← compareOf? (readOperand? fuel) left rest
      chooseOf? (readExpr? fuel) test rest

/-- Reads arguments up to and with the closing parenthesis. -/
def readArgs? : Nat → Reader (List Expr)
  | 0, _ => none
  | fuel + 1, ts =>
      match ts with
      | .sign ')' :: after => some ([], after)
      | ts => do
          let (first, rest) ← readExpr? fuel ts
          followArg? (readArgs? fuel) first rest

end

/-! ### Dotted names -/

/-- The tokens of a dotted name. -/
def pathTokens : List String → List Token
  | [] => []
  | [w] => [.word w]
  | w :: next :: ws => .word w :: .sign '.' :: pathTokens (next :: ws)

/-- The tokens do not go on a dotted name in front of them. -/
def EndsPath (ts : List Token) : Prop := ∀ rest, ts = .sign '.' :: rest → readPath? rest = none

theorem readPath?_pathTokens {path : List String} (nonempty : path ≠ []) {rest : List Token}
    (ends : EndsPath rest) : readPath? (pathTokens path ++ rest) = some (path, rest) := by
  induction path with
  | nil => exact absurd rfl nonempty
  | cons w ws ih =>
      cases ws with
      | nil =>
          unfold pathTokens
          rw [List.singleton_append, readPath?.eq_def]
          split
          · rename_i v more shape
            obtain ⟨rfl, rfl⟩ : w = v ∧ rest = .sign '.' :: more := by simpa using shape
            simp [ends more rfl]
          · rename_i v more _ shape
            obtain ⟨rfl, rfl⟩ : w = v ∧ rest = more := by simpa using shape
            rfl
          · rename_i other
            exact absurd rfl (other w rest)
      | cons next ws => simp [pathTokens, readPath?, ih]

theorem spells_path {path : List String} (nonempty : path ≠ [])
    (words : ∀ w ∈ path, IsWord w) : Spells (Text.join "." path) (pathTokens path) := by
  induction path with
  | nil => exact absurd rfl nonempty
  | cons w ws ih =>
      have first : Spells w [.word w] := (words w (by simp)).spells
      cases ws with
      | nil => exact first
      | cons next ws =>
          have others := ih (by simp) fun v found => words v (by simp [found])
          have dot : Closed "." [.sign '.'] := by decide
          have front := first.append_closed dot (breaks_of_head (by decide))
          exact front.append_spells others

/-! ### What ends an operand, an expression -/

/-- A token that ends an expression in front of it. -/
def endsExpr : Token → Bool
  | .sign c => c == ')' || c == ',' || c == ';' || c == ':'
  | _ => false

/-- A token that ends an operand in front of it. -/
def endsOperand : Token → Bool
  | .equal => true
  | .sign '?' => true
  | t => endsExpr t

/-- The first token passes a test. -/
def Begins (test : Token → Bool) (ts : List Token) : Prop :=
  ∃ t rest, ts = t :: rest ∧ test t = true

theorem begins_cons {test : Token → Bool} {t : Token} (passes : test t = true)
    (rest : List Token) : Begins test (t :: rest) := ⟨t, rest, rfl, passes⟩

theorem endsOperand_of_endsExpr {t : Token} (ends : endsExpr t = true) :
    endsOperand t = true := by
  unfold endsOperand
  split
  · rfl
  · rfl
  · exact ends

theorem Begins.operand {ts : List Token} (begins : Begins endsExpr ts) :
    Begins endsOperand ts := by
  obtain ⟨t, rest, rfl, ends⟩ := begins
  exact begins_cons (endsOperand_of_endsExpr ends) rest

theorem Begins.endsPath {ts : List Token} (begins : Begins endsOperand ts) : EndsPath ts := by
  obtain ⟨t, rest, rfl, ends⟩ := begins
  intro more shape
  obtain ⟨rfl, -⟩ : t = .sign '.' ∧ rest = more := by simpa using shape
  exact absurd ends (by decide)

theorem compareOf?_of_begins {readOperand? : Reader Expr} {left : Expr} {rest : List Token}
    (begins : Begins endsExpr rest) : compareOf? readOperand? left rest = some (left, rest) := by
  obtain ⟨t, more, rfl, ends⟩ := begins
  cases t with
  | equal => exact absurd ends (by decide)
  | word | literal | sign => rfl

theorem chooseOf?_of_begins {readExpr? : Reader Expr} {test : Expr} {rest : List Token}
    (begins : Begins endsExpr rest) : chooseOf? readExpr? test rest = some (test, rest) := by
  obtain ⟨t, more, rfl, ends⟩ := begins
  unfold chooseOf?
  split
  · rename_i shape
    obtain ⟨rfl, -⟩ := List.cons.inj shape
    exact absurd ends (by decide)
  · rfl

/-! ### Reading the forms -/

/-- Tokens that are read as an operand in front of anything that ends one. -/
def OperandReads (e : Expr) (ts : List Token) : Prop :=
  ∀ fuel rest, 4 * ts.length ≤ fuel → Begins endsOperand rest →
    readOperand? fuel (ts ++ rest) = some (e, rest)

/-- Tokens that are read as an expression in front of anything that ends one. -/
def ExprReads (e : Expr) (ts : List Token) : Prop :=
  ∀ fuel rest, 4 * ts.length + 1 ≤ fuel → Begins endsExpr rest →
    readExpr? fuel (ts ++ rest) = some (e, rest)

/-- Tokens that are read as arguments with the closing parenthesis. -/
def ArgsRead (es : List Expr) (ts : List Token) : Prop :=
  ∀ fuel rest, 4 * ts.length ≤ fuel → readArgs? fuel (ts ++ rest) = some (es, rest)

theorem OperandReads.expr {e : Expr} {ts : List Token} (reads : OperandReads e ts) :
    ExprReads e ts := by
  intro fuel rest enough begins
  obtain ⟨fuel, rfl⟩ : ∃ n, fuel = n + 1 := ⟨fuel - 1, by omega⟩
  have operand := reads fuel rest (by omega) begins.operand
  simp [readExpr?, operand, compareOf?_of_begins begins, chooseOf?_of_begins begins]

theorem ExprReads.same {left right : Expr} {ts us : List Token} (readsLeft : OperandReads left ts)
    (readsRight : OperandReads right us) :
    ExprReads (.same left right) (ts ++ Token.equal :: us) := by
  intro fuel rest enough begins
  simp only [List.length_append, List.length_cons] at enough
  obtain ⟨fuel, rfl⟩ : ∃ n, fuel = n + 1 := ⟨fuel - 1, by omega⟩
  have first := readsLeft fuel (.equal :: (us ++ rest)) (by omega) (begins_cons rfl _)
  have second := readsRight fuel rest (by omega) begins.operand
  simp [readExpr?, first, compareOf?, second, chooseOf?_of_begins begins]

theorem ExprReads.choose {test yes no : Expr} {ts us vs : List Token}
    (readsTest : ExprReads test ts) (noCast : ∀ rest, castOf? (ts ++ rest) = none)
    (readsYes : ExprReads yes us) (readsNo : ExprReads no vs) :
    ExprReads (.choose test yes no)
      (.sign '(' :: ts ++ Token.sign ')' :: .sign '?' :: us ++ Token.sign ':' :: vs) := by
  intro fuel rest enough begins
  simp only [List.length_append, List.length_cons] at enough
  obtain ⟨fuel, rfl⟩ : ∃ n, fuel = n + 2 := ⟨fuel - 2, by omega⟩
  have first := readsTest fuel (.sign ')' :: .sign '?' :: (us ++ Token.sign ':' :: (vs ++ rest)))
    (by omega) (begins_cons rfl _)
  have second := readsYes (fuel + 1) (.sign ':' :: (vs ++ rest)) (by omega) (begins_cons rfl _)
  have third := readsNo (fuel + 1) rest (by omega) begins
  have operand : readOperand? (fuel + 1) (.sign '(' :: (ts ++ Token.sign ')' :: .sign '?' ::
      (us ++ Token.sign ':' :: (vs ++ rest)))) =
      some (test, .sign '?' :: (us ++ Token.sign ':' :: (vs ++ rest))) := by
    simp [readOperand?, noCast, first, expect?]
  simp only [List.append_assoc, List.cons_append]
  rw [readExpr?, operand]
  simp [compareOf?, chooseOf?, second, expect?, third]

theorem OperandReads.literal (value : String) :
    OperandReads (.literal value) [.literal value] := by
  intro fuel rest enough _
  obtain ⟨fuel, rfl⟩ : ∃ n, fuel = n + 1 := ⟨fuel - 1, by simp at enough; omega⟩
  simp [readOperand?]

theorem OperandReads.cast {operand : Expr} {ts : List Token} (kind : PrimitiveKind)
    (reads : OperandReads operand ts) :
    OperandReads (.cast kind operand)
      (.sign '(' :: .word kind.keyword :: .sign ')' :: ts) := by
  intro fuel rest enough begins
  simp only [List.length_cons] at enough
  obtain ⟨fuel, rfl⟩ : ∃ n, fuel = n + 1 := ⟨fuel - 1, by omega⟩
  have inner := reads fuel rest (by omega) begins
  simp [readOperand?, castOf?, PrimitiveKind.ofKeyword?_keyword, inner]

theorem pathTokens_cons (w : String) (ws : List String) :
    ∃ more, pathTokens (w :: ws) = .word w :: more := by
  cases ws with
  | nil => exact ⟨[], rfl⟩
  | cons next ws => exact ⟨.sign '.' :: pathTokens (next :: ws), rfl⟩

theorem pathTokens_eq_cons {path : List String} (nonempty : path ≠ []) :
    ∃ w more, pathTokens path = .word w :: more := by
  obtain ⟨w, ws, rfl⟩ := List.exists_cons_of_ne_nil nonempty
  obtain ⟨more, shape⟩ := pathTokens_cons w ws
  exact ⟨w, more, shape⟩

/-- An operand that begins with a dotted name is read as the name, then what follows it. -/
theorem readOperand?_path {path : List String} (nonempty : path ≠ []) {rest : List Token}
    (ends : EndsPath rest) (fuel : Nat) :
    readOperand? (fuel + 1) (pathTokens path ++ rest) =
      followPath? (readArgs? fuel) path rest := by
  obtain ⟨w, more, shape⟩ := pathTokens_eq_cons nonempty
  have read := readPath?_pathTokens nonempty ends
  rw [shape, List.cons_append] at read ⊢
  simp [readOperand?, read]

theorem followPath?_of_begins {readArgs? : Reader (List Expr)} {path : List String}
    {rest : List Token} (begins : Begins endsOperand rest) :
    followPath? readArgs? path rest = (ofPath? path).map (·, rest) := by
  obtain ⟨t, more, rfl, ends⟩ := begins
  unfold followPath?
  split
  all_goals first
    | rfl
    | (rename_i shape
       obtain ⟨rfl, -⟩ := List.cons.inj shape
       simp [endsOperand, endsExpr] at ends)

/-- A dotted name by itself. -/
theorem OperandReads.ofPath {path : List String} {e : Expr} (nonempty : path ≠ [])
    (isExpr : ofPath? path = some e) : OperandReads e (pathTokens path) := by
  intro fuel rest enough begins
  obtain ⟨w, more, shape⟩ := pathTokens_eq_cons nonempty
  obtain ⟨fuel, rfl⟩ : ∃ n, fuel = n + 1 := ⟨fuel - 1, by simp [shape] at enough; omega⟩
  rw [readOperand?_path nonempty begins.endsPath, followPath?_of_begins begins, isExpr]
  rfl

theorem OperandReads.call {path : List String} {args : List Expr} {ts : List Token}
    (nonempty : path ≠ []) (free : beginsReserved path = false) (reads : ArgsRead args ts) :
    OperandReads (.call path args) (pathTokens path ++ Token.sign '(' :: ts) := by
  intro fuel rest enough _
  simp only [List.length_append, List.length_cons] at enough
  obtain ⟨fuel, rfl⟩ : ∃ n, fuel = n + 1 := ⟨fuel - 1, by omega⟩
  have inner := reads fuel rest (by omega)
  rw [List.append_assoc, List.cons_append, readOperand?_path nonempty (by simp [EndsPath])]
  simp [followPath?, free, inner]

/-- A call with a type argument is read as one without. -/
theorem OperandReads.typedCall {path : List String} {args : List Expr} {ts : List Token}
    (type method : String) (nonempty : path ≠ []) (free : beginsReserved path = false)
    (reads : ArgsRead args ts) :
    OperandReads (.call (path ++ [method]) args)
      (pathTokens path ++ Token.sign '.' :: .sign '<' :: .word type :: .sign '>' :: .word method ::
        .sign '(' :: ts) := by
  intro fuel rest enough _
  simp only [List.length_append, List.length_cons] at enough
  obtain ⟨fuel, rfl⟩ : ∃ n, fuel = n + 1 := ⟨fuel - 1, by omega⟩
  have inner := reads fuel rest (by omega)
  have ends : EndsPath (.sign '.' :: .sign '<' :: .word type :: .sign '>' :: .word method ::
      .sign '(' :: (ts ++ rest)) := by
    intro more shape
    obtain rfl := (List.cons.inj shape).2
    rfl
  simp only [List.append_assoc, List.cons_append]
  rw [readOperand?_path nonempty ends]
  simp [followPath?, free, inner]

theorem OperandReads.create {path : List String} {args : List Expr} {ts : List Token}
    (nonempty : path ≠ []) (reads : ArgsRead args ts) :
    OperandReads (.create (Text.join "." path) args)
      (.word "new" :: pathTokens path ++ Token.sign '(' :: ts) := by
  intro fuel rest enough _
  simp only [List.length_append, List.length_cons] at enough
  obtain ⟨fuel, rfl⟩ : ∃ n, fuel = n + 1 := ⟨fuel - 1, by omega⟩
  have inner := reads fuel rest (by omega)
  obtain ⟨w, more, shape⟩ := pathTokens_eq_cons nonempty
  have opening : EndsPath (.sign '(' :: (ts ++ rest)) := by simp [EndsPath]
  have typeName : EndsPath (pathTokens path ++ Token.sign '(' :: (ts ++ rest)) := by
    simp [EndsPath, shape]
  have type := readPath?_pathTokens nonempty opening
  have front := readOperand?_path (List.cons_ne_nil "new" []) typeName fuel
  rw [shape, List.cons_append] at front type
  simp only [pathTokens, List.singleton_append] at front
  simp only [List.append_assoc, List.cons_append, shape]
  rw [front]
  simp [followPath?, type, expect?, inner]

theorem ArgsRead.nil : ArgsRead [] [.sign ')'] := by
  intro fuel rest enough
  obtain ⟨fuel, rfl⟩ : ∃ n, fuel = n + 1 := ⟨fuel - 1, by simp at enough; omega⟩
  simp [readArgs?]

/-- The tokens of an expression do not begin with a closing parenthesis. -/
theorem ExprReads.exists_cons {e : Expr} {ts : List Token} (reads : ExprReads e ts) :
    ∃ t more, ts = t :: more ∧ t ≠ .sign ')' := by
  have closed (fuel : Nat) (rest : List Token) : readExpr? fuel (.sign ')' :: rest) = none := by
    cases fuel with
    | zero => rfl
    | succ fuel => cases fuel <;> simp [readExpr?, readOperand?, readPath?]
  have read := reads _ [.sign ')'] (Nat.le_refl _) (begins_cons rfl _)
  cases ts with
  | nil => simp [closed] at read
  | cons t more =>
      refine ⟨t, more, rfl, ?_⟩
      rintro rfl
      simp [closed] at read

/-- Arguments begin with an expression, and go on with what follows it. -/
theorem ExprReads.readArgs? {e : Expr} {ts : List Token} (reads : ExprReads e ts) {fuel : Nat}
    {rest : List Token} (enough : 4 * ts.length + 1 ≤ fuel) (begins : Begins endsExpr rest) :
    readArgs? (fuel + 1) (ts ++ rest) = followArg? (readArgs? fuel) e rest := by
  have first := reads fuel rest enough begins
  obtain ⟨t, more, rfl, opens⟩ := reads.exists_cons
  rw [List.cons_append] at first ⊢
  rw [Java.readArgs?, first]
  · rfl
  · exact fun after shape => opens (List.cons.inj shape).1

theorem ArgsRead.one {e : Expr} {ts : List Token} (reads : ExprReads e ts) :
    ArgsRead [e] (ts ++ [Token.sign ')']) := by
  intro fuel rest enough
  simp only [List.length_append, List.length_singleton] at enough
  obtain ⟨fuel, rfl⟩ : ∃ n, fuel = n + 1 := ⟨fuel - 1, by omega⟩
  rw [List.append_assoc, List.singleton_append, reads.readArgs? (by omega) (begins_cons rfl _)]
  rfl

theorem ArgsRead.more {e : Expr} {es : List Expr} {ts us : List Token} (reads : ExprReads e ts)
    (others : ArgsRead es us) (nonempty : es ≠ []) :
    ArgsRead (e :: es) (ts ++ Token.sign ',' :: us) := by
  intro fuel rest enough
  simp only [List.length_append, List.length_cons] at enough
  obtain ⟨fuel, rfl⟩ : ∃ n, fuel = n + 1 := ⟨fuel - 1, by omega⟩
  have later := others fuel rest (by omega)
  rw [List.append_assoc, List.cons_append,
    reads.readArgs? (by omega) (begins_cons rfl _)]
  simp [followArg?, later, nonempty]

end AdapterGen.Java
