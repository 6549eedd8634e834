import TableQuery.Value.Equality

/-! Words of the vocabulary as they come in values: as members, or as text and numbers. -/
namespace TableQuery

def Operator.resolve (v : Value) : Except Fault Operator :=
  match v, v.asText? with
  | .null, _ => .ok .equals
  | .operator op, _ => .ok op
  | _, some s =>
    if Text.blank s then .ok .equals
    else match ofWire? s with
      | some op => .ok op
      | none => .error (.about .unknownOperator v)
  | _, none => .error (.about .unknownOperator v)

theorem Operator.resolveMember (op : Operator) : resolve (.operator op) = .ok op := rfl

def Direction.resolve (v : Value) : Except Fault Direction :=
  match v.asText?.bind ofWire? with
  | some d => .ok d
  | none => .error (.about .unknownDirection v)

theorem Direction.resolveMember (d : Direction) : resolve (.direction d) = .ok d := by
  cases d <;> rfl

def Version.equalTo? (v : Value) : Except Fault (Option Version) :=
  if v.signalling then .error .undefinedComparison
  else .ok <| match v.extent? with
    | some (.finite q) => all.find? fun w => (w.number : Rat) == q
    | _ => none

def Version.resolve (v : Value) : Except Fault Version := do
  match ← equalTo? v with
  | some version => .ok version
  | none => .error (.about .unsupportedVersion v)

theorem Version.resolveMember (v : Version) : resolve (.version v) = .ok v := by
  cases v <;> rfl

def Value.candidates (v : Value) : List Value :=
  match v, v.members? with
  | .null, _ => []
  | _, some members => members
  | _, none => [v]

end TableQuery
