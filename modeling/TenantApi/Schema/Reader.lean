import TenantApi.Schema.Scalar

/-!
Checking data against a schema. Reading gives the checked data or all issues: those of a record in
the order of its fields, those of a list in the order of its items. A record keeps every member
that no field was read from when its model is open, and drops such members otherwise.
-/

namespace TenantApi.Schema

def both {α β : Type} (a : Except (List Issue) α) (b : Except (List Issue) β) :
    Except (List Issue) (α × β) :=
  match a, b with
  | .ok a, .ok b => .ok (a, b)
  | .error a, .error b => .error (a ++ b)
  | .error a, .ok _ => .error a
  | .ok _, .error b => .error b

def within {α : Type} (step : Step) (result : Except (List Issue) α) : Except (List Issue) α :=
  result.mapError fun issues => issues.map (Issue.under step)

/-- The key under which a field is found: its alias when that is present, else its name. -/
def FieldHead.key? (head : FieldHead) (entries : Entries) : Option String :=
  match head.otherName with
  | some other => if (entries.lookup (.plain other)).isSome then some other
      else if (entries.lookup (.plain head.name)).isSome then some head.name else none
  | none => if (entries.lookup (.plain head.name)).isSome then some head.name else none

def extras (fields : List (FieldHead × Kind)) (entries : Entries) : Entries :=
  let used := fields.filterMap fun field => field.1.key? entries
  entries.filter fun entry => !(used.map LooseText.plain).contains entry.1

def readChoice (e : WireEnum) : Datum → Except (List Issue) Datum
  | .text (.ragged _) => fail .brokenText
  | .text (.plain wire) => match e.ofWire? wire with
    | some member => .ok (.choice member)
    | none => fail .notMember
  | .choice member => match e.ofWire? member.wire with
    | some member => .ok (.choice member)
    | none => fail .notMember
  | _ => fail .notMember

def readItems (read : Datum → Except (List Issue) Datum) :
    (index : Nat) → List Datum → Except (List Issue) (List Datum)
  | _, [] => .ok []
  | index, item :: rest =>
      match both (within (.index index) (read item)) (readItems read (index + 1) rest) with
      | .ok (item, rest) => .ok (item :: rest)
      | .error issues => .error issues

mutual

def Kind.read : Kind → Datum → Except (List Issue) Datum
  | .text, .text value => .ok (.text value)
  | .text, .choice member => .ok (.text member.wire)
  | .text, _ => fail .notText
  | .integer, value => readInteger value
  | .truth, value => readTruth value
  | .moment, value => readMoment value
  | .anything, value => .ok value
  | .mapping, .mapping entries => .ok (.mapping entries)
  | .mapping, _ => fail .notMapping
  | .choice e, value => readChoice e value
  | .list item, .list items => (readItems item.read 0 items).map .list
  | .list _, _ => fail .notList
  | .optional _, .null => .ok .null
  | .optional kind, value => kind.read value
  | .model isOpen fields, .mapping entries =>
      -- An open model looks at every key, and nothing else counts when one is no string.
      if isOpen && entries.any (fun entry => entry.1.isRagged) then fail .brokenText
      else (readFields fields entries).map fun checked =>
        .record checked (if isOpen then extras fields entries else [])
  | .model _ _, _ => fail .notModel

def readFields : List (FieldHead × Kind) → Entries → Except (List Issue) Entries
  | [], _ => .ok []
  | (head, kind) :: rest, entries =>
      let value : Except (List Issue) Datum := match head.key? entries with
        | some key => within (.key key) (kind.read ((entries.lookup (.plain key)).getD .null))
        | none => match head.fallback with
          | some fallback => .ok fallback
          | none => .error [⟨.missing, [.key head.name]⟩]
      match both value (readFields rest entries) with
      | .ok (value, rest) => .ok ((head.name, value) :: rest)
      | .error issues => .error issues

end

def Model.read (model : Model) (value : Datum) : Except (List Issue) Datum := model.kind.read value

def Model.readJson (model : Model) (value : Json) : Except (List Issue) Datum :=
  model.read (Datum.ofJson value)

end TenantApi.Schema
