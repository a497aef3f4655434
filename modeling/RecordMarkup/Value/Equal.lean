import RecordMarkup.Value.Basic
import RecordMarkup.Number.Conversion

/-!
When two values count as equal: numbers of all kinds by their value, containers by their items,
components of one kind by their slots, and the rest by identity.

What is no number equals nothing, but within a container it is taken for the same as itself. A
signalling one must not be compared with a number: then there is no answer.
-/

namespace RecordMarkup.Value

inductive Comparand
  | number (n : Number.Exact)
  | nan (n : Number.NaN)

def comparand? : Value → Option Comparand
  | bool b => some (.number (.ofInt (if b then 1 else 0)))
  | int n => some (.number (.ofInt n))
  | float x | member (.double _ _ x) =>
    some ((Number.Exact.ofFloat? x).elim (.nan .double) .number)
  | decimal d => some (.number (.ofDecimal d))
  | nan _ n => some (.nan n)
  | member (.number _ _ n) => some (.number (.ofInt n))
  | _ => none

def Comparand.equal? : Comparand → Comparand → Option Bool
  | number m, number n => some (m == n)
  | nan m, nan n => if m.isSignalling || n.isSignalling then none else some false
  | nan n, number _ | number _, nan n => if n.isSignalling then none else some false

def leafEqual (a b : Value) : Bool :=
  match text? a, text? b with
  | some s, some t => s == t
  | some _, none | none, some _ => false
  | none, none =>
    match a, b with
    | null, null => true
    | bytes s, bytes t => s == t
    | stream i _, stream j _ => i == j
    | record i _, record j _ => i == j
    | member m, member n => m == n
    | method m, method n => m == n
    | mapper i _, mapper j _ => i == j
    | recordType i _, recordType j _ => i == j
    | _, _ => false

def leafEqual? (a b : Value) : Option Bool :=
  match comparand? a, comparand? b with
  | some m, some n => m.equal? n
  | some _, none | none, some _ => some false
  | none, none => some (leafEqual a b)

def both? : Option Bool → Option Bool → Option Bool
  | some true, answer => answer
  | answer, _ => answer

mutual

/-- Equality of values; `within` tells that the values stand within containers. -/
def equal? (within : Bool) : Value → Value → Option Bool
  | list xs, list ys => if xs.length = ys.length then equalItems? xs ys else some false
  | tuple xs, tuple ys => equalItems? xs ys
  | dict xs, dict ys => if xs.length = ys.length then includedIn? xs ys else some false
  | typedRecord s xs, typedRecord t ys => if s.1 = t.1 then equalFields? xs ys else some false
  | component c, component d => equalComponents? c d
  | nan i m, nan j n => if within ∧ i = j then some true else leafEqual? (nan i m) (nan j n)
  | a, b => leafEqual? a b

def equalItems? : List Value → List Value → Option Bool
  | [], [] => some true
  | a :: as, b :: bs => both? (equal? true a b) (equalItems? as bs)
  | _, _ => some false

def includedIn? : List (String × Value) → List (String × Value) → Option Bool
  | [], _ => some true
  | (key, v) :: entries, others =>
    match others.lookup key with
    | some w => both? (equal? true v w) (includedIn? entries others)
    | none => some false

def equalFields? : List (String × Value) → List (String × Value) → Option Bool
  | [], [] => some true
  | (_, v) :: xs, (_, w) :: ys => both? (equal? true v w) (equalFields? xs ys)
  | _, _ => some false

/-- The record type of a schema does not count. -/
def equalComponents? : Component Value → Component Value → Option Bool
  | .format t as, .format u bs => both? (equal? true t u) (equalItems? as bs)
  | .mapping n f, .mapping m g => both? (equal? true n m) (equal? true f g)
  | .static k v, .static l w => both? (equal? true k l) (equal? true v w)
  | .dynamic k v, .dynamic l w => both? (equal? true k l) (equal? true v w)
  | .requestAttr k v, .requestAttr l w => both? (equal? true k l) (equal? true v w)
  | .request m p e, .request n q f =>
    if m = n then both? (equal? true p q) (equal? true e f) else some false
  | .element t as c b a, .element u bs d x y =>
    both? (equal? true t u) <| both? (equalItems? as bs) <| both? (equal? true c d) <|
      both? (equal? true b x) (equal? true a y)
  | .plain, .plain => some true
  | .optional d m, .optional e n => both? (equal? true d e) (equal? true m n)
  | .map m, .map n => equal? true m n
  | .list i, .list j => equal? true i j
  | .nest s o, .nest t p => both? (equal? true s t) (equal? true o p)
  | .field n p e, .field m q f =>
    both? (equal? true n m) <| both? (equal? true p q) (equal? true e f)
  | .schema fs e n _, .schema gs f m _ =>
    both? (equalItems? fs gs) <| both? (equal? true e f) (equal? true n m)
  | _, _ => some false

end

def same (a b : Value) : Bool := equal? true a b == some true

inductive Unhashable
  | mutable (typeName : String)
  | signalling
  deriving DecidableEq, Repr

mutual

/-- The first part that keeps a value from being looked up: lists, dictionaries and typed records can
change. -/
def unhashable? : Value → Option Unhashable
  | list _ => some (.mutable "list")
  | dict _ => some (.mutable "dict")
  | typedRecord type _ => some (.mutable type.2.name)
  | nan _ n => if n.isSignalling then some .signalling else none
  | tuple items => unhashableItem? items
  | component c => unhashablePart? c
  | _ => none

def unhashableItem? : List Value → Option Unhashable
  | [] => none
  | v :: vs => (unhashable? v).or (unhashableItem? vs)

def unhashablePart? : Component Value → Option Unhashable
  | .format t as => (unhashable? t).or (unhashableItem? as)
  | .mapping n f => (unhashable? n).or (unhashable? f)
  | .static k v | .dynamic k v | .requestAttr k v => (unhashable? k).or (unhashable? v)
  | .request _ p e => (unhashable? p).or (unhashable? e)
  | .element t as c b a =>
    (unhashable? t).or <| (unhashableItem? as).or <| (unhashable? c).or <|
      (unhashable? b).or (unhashable? a)
  | .plain => none
  | .optional d m => (unhashable? d).or (unhashable? m)
  | .map m => unhashable? m
  | .list i => unhashable? i
  | .nest s o => (unhashable? s).or (unhashable? o)
  | .field n p e => (unhashable? n).or <| (unhashable? p).or (unhashable? e)
  | .schema fs e n _ => (unhashableItem? fs).or <| (unhashable? e).or (unhashable? n)

end

end RecordMarkup.Value
