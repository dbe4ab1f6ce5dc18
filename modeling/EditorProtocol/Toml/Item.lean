import EditorProtocol.Toml.Scalar

/-!
Values that TOML writes, the ones with parts included: arrays and tables between braces, which both
may go over several lines and have comments in them.
-/

namespace EditorProtocol.Toml

/-- What follows blanks, line feeds and comments; in a comment to begin with, or not. -/
def skipFiller? : Bool → List Char → Option (List Char)
  | _, [] => some []
  | true, c :: rest =>
    if c == '\n' then skipFiller? false rest
    else if isAllowed false c then skipFiller? true rest
    else none
  | false, c :: rest =>
    if isFiller c then skipFiller? false rest
    else if c == '#' then skipFiller? true rest
    else some (c :: rest)

theorem length_skipFiller?_le {inComment : Bool} {s r : List Char}
    (h : skipFiller? inComment s = some r) : r.length ≤ s.length := by
  induction s generalizing inComment with
  | nil => cases inComment <;> simp_all [skipFiller?]
  | cons c rest ih =>
    have up : r.length ≤ rest.length → r.length ≤ (c :: rest).length := by
      intro le
      simp only [List.length_cons]
      omega
    cases inComment with
    | true =>
      simp only [skipFiller?] at h
      split at h
      · exact up (ih h)
      · split at h
        · exact up (ih h)
        · cases h
    | false =>
      simp only [skipFiller?] at h
      split at h
      · exact up (ih h)
      · split at h
        · exact up (ih h)
        · simp only [Option.some.injEq] at h
          exact h ▸ Nat.le_refl _

/-- A text without the blanks, line feeds and comments at its front. -/
def filled? (s : List Char) : Except Failure { r : List Char // r.length ≤ s.length } :=
  match h : skipFiller? false s with
  | some r => .ok ⟨r, length_skipFiller?_le h⟩
  | none => .error .malformed

/-- A text without the blanks at its front. -/
def unblanked (s : List Char) : { r : List Char // r.length ≤ s.length } :=
  ⟨skipBlanks s, length_skipBlanks_le s⟩

/-- A table between braces as far as it was read, with the paths whose nodes are complete. -/
structure BracedTable where
  table : Table := []
  closed : List Path := []

/-- The table with a further entry; a path through a complete node is refused. -/
def BracedTable.add (t : BracedTable) (path : Path) (node : Node) : Option BracedTable :=
  if t.closed.any path.isUnder then none
  else do
    let name ← path.getLast?
    let table ← t.table.alter false (Table.add name node) path.dropLast
    return ⟨table, if node.isClosed then path :: t.closed else t.closed⟩

mutual

/-- The value at the front of a text. -/
def item? (s : List Char) : Except Failure (Parsed Node s) :=
  match s with
  | '[' :: rest => do
    let inner ← filled? rest
    if inner.val.head? = some ']' then ofReader (Parsed.ofShorter? _ (.array []) inner.val.tail)
    else do
      let p ← items? inner.val
      return p.after Node.array (by
        have := inner.property
        simp only [List.length_cons]
        omega)
  | '\x7b' :: rest => do
    let inner ← filled? rest
    if inner.val.head? = some '\x7d' then
      ofReader (Parsed.ofShorter? _ (.table []) inner.val.tail)
    else do
      let p ← entries? {} inner.val
      return p.after Node.table (by
        have := inner.property
        simp only [List.length_cons]
        omega)
  | s => do
    let (node, rest) ← scalar? s
    ofReader (Parsed.ofShorter? s node rest)
termination_by (s.length, 0)
decreasing_by
  all_goals
    have := inner.property
    exact Prod.Lex.left _ _ (by simp only [List.length_cons]; omega)

/-- The items of an array up to its closing bracket; a comma may stand after the last one. -/
def items? (s : List Char) : Except Failure (Parsed (List Node) s) := do
  let p ← item? s
  let afterItem ← filled? p.rest
  match _h : afterItem.val with
  | ']' :: rest => ofReader (Parsed.ofShorter? s [p.value] rest)
  | ',' :: rest => do
    let next ← filled? rest
    if next.val.head? = some ']' then ofReader (Parsed.ofShorter? s [p.value] next.val.tail)
    else do
      let q ← items? next.val
      return q.after (p.value :: ·) (by
        have := next.property
        have := afterItem.property
        have := p.shorter
        simp only [_h, List.length_cons] at *
        omega)
  | _ => .error .malformed
termination_by (s.length, 1)
decreasing_by
  · exact Prod.Lex.right _ (by decide)
  · have := next.property
    have := afterItem.property
    have := p.shorter
    rw [_h] at *
    exact Prod.Lex.left _ _ (by simp only [List.length_cons] at *; omega)

/-- The key and the value of an entry. -/
def keyValue? (s : List Char) : Except Failure (Parsed (Path × Node) s) := do
  let key ← ofReader (key? s)
  match _h : key.rest with
  | '=' :: rest => do
    let p ← item? (unblanked rest).val
    return p.after (key.value, ·) (by
      have := (unblanked rest).property
      have := key.shorter
      simp only [_h, List.length_cons] at *
      omega)
  | _ => .error .malformed
termination_by (s.length, 1)
decreasing_by
  have := (unblanked rest).property
  have := key.shorter
  rw [_h] at *
  exact Prod.Lex.left _ _ (by simp only [List.length_cons] at *; omega)

/-- The entries of a table up to its closing brace; a comma may stand after the last one. -/
def entries? (table : BracedTable) (s : List Char) : Except Failure (Parsed Table s) := do
  let p ← keyValue? s
  let table ← ofReader (table.add p.value.1 p.value.2)
  let afterEntry ← filled? p.rest
  match _h : afterEntry.val with
  | '\x7d' :: rest => ofReader (Parsed.ofShorter? s table.table rest)
  | ',' :: rest => do
    let next ← filled? rest
    if next.val.head? = some '\x7d' then
      ofReader (Parsed.ofShorter? s table.table next.val.tail)
    else do
      let q ← entries? table next.val
      return q.after id (by
        have := next.property
        have := afterEntry.property
        have := p.shorter
        simp only [_h, List.length_cons] at *
        omega)
  | _ => .error .malformed
termination_by (s.length, 2)
decreasing_by
  · exact Prod.Lex.right _ (by decide)
  · have := next.property
    have := afterEntry.property
    have := p.shorter
    rw [_h] at *
    exact Prod.Lex.left _ _ (by simp only [List.length_cons] at *; omega)

end

end EditorProtocol.Toml
