import Nomenclator.Template.Datum

/-!
# Loops that run

A loop takes its items one by one. It knows the item it is at and the one before, and it can look
one item ahead; the item that was looked at is the next one that is taken. What a loop goes through
is either at hand or another loop, whose steps are taken from it: so the outer loop moves on when
the inner one does, and is done when the inner one is.

The loops that run form a stack, the outermost first, and a loop is told from the others by its
place in it. An item that cannot be had is a problem only when the loop gets there. -/

namespace Nomenclator.Template

/-- What a loop goes through. -/
inductive Supply where
  /-- Items that are at hand, and the problem that is met behind them, where there is one. -/
  | items (rest : List Datum) (problem : Option String)
  /-- The steps of another loop. -/
  | steps (id : Nat)

/-- A loop that runs. -/
structure Loop where
  supply : Supply
  /-- How many items there are. -/
  count : Except String Nat
  /-- How many items have been taken. -/
  taken : Nat := 0
  before : Option Datum := none
  current : Option Datum := none
  /-- The item that has been looked at ahead of its turn. -/
  ahead : Option Datum := none

/-- A computation while loops run, which fails with a problem. -/
abbrev Run := StateT (List Loop) (Except String)

namespace Loop

/-- How a loop is shown. -/
def shown (l : Loop) : String :=
  "<LoopContext " ++ toString l.taken ++ "/" ++ toString (l.count.toOption.getD 0) ++ ">"

/-- The loop at its next item. -/
def moved (l : Loop) (d : Datum) : Loop :=
  { l with taken := l.taken + 1, before := l.current, current := some d, ahead := none }

/-- How many items a loop has at hand. -/
def stock (l : Loop) : Nat :=
  (match l.supply with
    | .items rest _ => rest.length
    | .steps _ => 0) + (if l.ahead.isSome then 1 else 0)

end Loop

namespace Run

/-! ## Taking items -/

/-- The loop of a number. -/
def loop? (id : Nat) : Run (Option Loop) := do return (← get)[id]?

/-- Puts a loop in the place of another. -/
def change (id : Nat) (l : Loop) : Run Unit := modify fun loops => loops.set id l

/-- The datum of a loop as it is now. -/
def datumOf (id : Nat) : Run Datum := do
  return .loop id (((← loop? id).map Loop.shown).getD "")

mutual

/-- The next item of what a loop goes through, for a loop inside at most `fuel` others. -/
def fetch : Nat → Nat → Run (Option Datum)
  | 0, _ => return none
  | fuel + 1, id => do
    match ← loop? id with
    | none => return none
    | some l =>
      match l.supply with
      | .items (d :: rest) problem =>
        change id { l with supply := .items rest problem }
        return some d
      | .items [] (some problem) => throw problem
      | .items [] none => return none
      | .steps outer =>
        match ← take fuel outer with
        | none => return none
        | some d => return some (.step d outer (((← loop? outer).map Loop.shown).getD ""))

/-- Moves a loop to its next item. -/
def take : Nat → Nat → Run (Option Datum)
  | 0, _ => return none
  | fuel + 1, id => do
    let found ← match (← loop? id).bind Loop.ahead with
      | some d => pure (some d)
      | none => fetch fuel id
    match found, ← loop? id with
    | some d, some l =>
      change id (l.moved d)
      return some d
    | _, _ => return none

end

/-- How much fuel is needed to follow loops through one another. -/
def depth : Run Nat := do return 2 * (← get).length + 2

/-- Moves a loop to its next item. -/
def next (id : Nat) : Run (Option Datum) := do take (← depth) id

/-- The item behind the one that a loop is at. -/
def peek (id : Nat) : Run (Option Datum) := do
  match (← loop? id).bind Loop.ahead with
  | some d => return some d
  | none =>
    let found ← fetch (← depth) id
    match ← loop? id with
    | some l => change id { l with ahead := found }
    | none => pure ()
    return found

/-- A bound for the number of items that any of the loops can still take. -/
def stock : Run Nat := do return (← get).foldl (fun n l => n + l.stock) 0

/-! ## Running a loop -/

/-- The texts of a body for the items of a loop from the next one on, joined behind the text of the
earlier ones, where there have been any; nothing for a loop without items. -/
def rounds (id : Nat) (body : Datum → Run String) : Nat → Option String → Run (Option String)
  | 0, text => return text
  | fuel + 1, text => do
    match ← next id with
    | none => return text
    | some d =>
      let more ← body d
      rounds id body fuel (some (text.getD "" ++ more))

/-- The text of a body, which is told the number of the loop, for all items of a supply; nothing
where there are none. -/
def loopOver (supply : Supply) (body : Nat → Datum → Run String) : Run (Option String) := do
  let loops ← get
  let id := loops.length
  let count : Except String Nat := match supply with
    | .items rest none => .ok rest.length
    | .items _ (some problem) => .error problem
    | .steps outer => ((loops[outer]?).map Loop.count).getD (.ok 0)
  set (loops ++ [{ supply := supply, count := count }])
  let text ← rounds id (body id) ((← stock) + 1) none
  modify fun loops => loops.take id
  return text

/-- All the steps that a loop has left, which are taken from it. -/
def drain (id : Nat) : Nat → Run (List Datum)
  | 0 => return []
  | fuel + 1 => do
    match ← next id with
    | none => return []
    | some d =>
      let shown := ((← loop? id).map Loop.shown).getD ""
      return .step d id shown :: (← drain id fuel)

/-! ## What a loop goes through -/

/-- What a loop over a datum goes through. -/
def supplyOf (d : Datum) : Run Supply := do
  match d with
  | .loop id _ => return .steps id
  | _ => return .items (← d.items) none

/-- The outcome of a computation that may fail. -/
def attempt {α : Type} (m : Run α) : Run (Except String α) :=
  tryCatch (Except.ok <$> m) fun problem => return .error problem

/-- The data that pass a test, up to the first one that cannot be tested, and the problem with that
one. -/
def passing (test : Datum → Run Bool) : List Datum → Run (List Datum × Option String)
  | [] => return ([], none)
  | d :: rest => do
    match ← attempt (test d) with
    | .error problem => return ([], some problem)
    | .ok isKept =>
      let (kept, problem) ← passing test rest
      return (if isKept then d :: kept else kept, problem)

/-- What a loop over the items of a datum that pass a test goes through. -/
def supplyWhere (test : Datum → Run Bool) (d : Datum) : Run Supply := do
  let found ← match ← supplyOf d with
    | .items items _ => pure items
    | .steps id => do drain id ((← stock) + 1)
  let (kept, problem) ← passing test found
  return .items kept problem

/-! ## What loops are asked for -/

/-- The count of a loop. -/
def countOf (l : Loop) : Run Int :=
  match l.count with
  | .ok n => return n
  | .error problem => throw problem

/-- A whole number as a datum. -/
def whole (n : Int) : Option Datum := some (.value (.int n))

/-- A member of a loop. -/
def loopMember? (id : Nat) (l : Loop) (name : String) : Run (Option Datum) := do
  match name with
  | "index" => return whole l.taken
  | "index0" => return whole (l.taken - 1)
  | "revindex" => return whole ((← countOf l) - l.taken + 1)
  | "revindex0" => return whole ((← countOf l) - l.taken)
  | "first" => return some (.ofBool (l.taken = 1))
  | "last" => return some (.ofBool (← peek id).isNone)
  | "length" => return whole (← countOf l)
  | "depth" => return whole 1
  | "depth0" => return whole 0
  | "previtem" =>
    if l.taken = 1 then return some (.undefined "there is no previous item") else return l.before
  | "nextitem" => return some ((← peek id).getD (.undefined "there is no next item"))
  | "cycle" => return some (.boundOperation "LoopContext.cycle" l.shown)
  | "changed" => return some (.boundOperation "LoopContext.changed" l.shown)
  | _ => return none

/-- What a template finds as the member of a datum while loops run. -/
def member (d : Datum) (name : String) : Run Datum := do
  match d with
  | .loop id _ =>
    match ← loop? id with
    | some l => return (← loopMember? id l name).getD (d.noMember name)
    | none => return d.noMember name
  | _ => d.member name

/-- A datum with the loops in it shown as they are now. -/
def refresh (d : Datum) : Run Datum := do
  match d with
  | .loop id _ => datumOf id
  | .step item id _ => return .step item id (((← loop? id).map Loop.shown).getD "")
  | _ => return d

/-- What a template finds in a datum under a key while loops run. -/
def item (d key : Datum) : Run Datum := do
  match d, key with
  | .loop _ _, .value (.text name) => member d name
  | _, _ => refresh (← d.item key)

end Run

end Nomenclator.Template
