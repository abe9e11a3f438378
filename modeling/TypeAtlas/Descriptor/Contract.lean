import TypeAtlas.Descriptor.Erased

/-!
The contract of descriptors: indices are positions, counts count, and every field lies inside its owner
at an offset aligned for its type. Checking collects every breach in the order in which the members are
described.
-/

namespace TypeAtlas

namespace Contract

/-- A breach at a path, worded by a detail. -/
def breach (kind : FaultKind) (path : List Text) (detail : Text) : Fault :=
  .of { phase := .validate, kind, path, detail }

def checkName (name : Text) : List Fault :=
  if name.isEmpty then [.invalidInput .validate "descriptor has no name"] else []

def checkAttributes (path : List Text) (attrs : List Attribute) : List Fault :=
  (attrs.filter (·.name.isEmpty)).map fun a => .invalidAttribute path a.render "empty name"

/-- Ties a declared count to the members and to the type that lists them. -/
def checkCount (path : List Text) (what : Text) (declared : Int) (actual : Nat)
    (listType : Option TypeRep) : List Fault :=
  (if declared ≠ actual then [.countMismatch .validate path what declared actual] else []) ++
  match listType with
  | none => [.invalidInput .validate (what ++ " list type is nil")]
  | some t =>
    if TypeRep.isNoType (some t) ≠ (actual == 0) then
      [.of {
        path
        phase := .validate
        kind := .countMismatch
        goType := t.text
        detail := what ++ " list type does not agree with " ++ Text.ofNat actual ++ " " ++ what ++ "s" }]
    else if TypeRep.isNoType (some t) then []
    else
      match t.fields? with
      | some fields =>
        if fields.length ≠ actual then
          [.countMismatch .validate path (what ++ " list type") fields.length actual]
        else []
      | none => []

/-- A field at its position, after fields with the names `seen`. -/
def checkField (path : List Text) (owner : Option TypeRep) (seen : List Text) (position : Nat)
    (f : FieldInfo) : List Fault :=
  let path := path ++ [displayName f.name]
  (if f.index ≠ position then [.indexMismatch .validate path f.index position] else []) ++
  (if !f.name.isEmpty && seen.contains f.name then [.duplicate .validate "field" f.name] else []) ++
  (if f.owner ≠ owner then
    [.typeMismatch .validate path (TypeRep.describe f.owner) (TypeRep.describe owner)] else []) ++
  checkAttributes path f.attrs ++
  match f.type with
  | none => [.invalidInput .validate ("field " ++ Text.ofNat position ++ " has no type")]
  | some t =>
    let offset := f.offset.toNat
    (match owner with
      | some o =>
        if offset > o.size ∨ t.size > o.size - offset then
          [.offsetOutOfBounds .validate path offset t.size o.size]
        else []
      | none => []) ++
    (if offset % t.align ≠ 0 then [.misaligned .validate path t.text offset t.align] else [])

def checkFieldsFrom (path : List Text) (owner : Option TypeRep) :
    List Text → Nat → List FieldInfo → List Fault
  | _, _, [] => []
  | seen, position, f :: rest =>
    checkField path owner seen position f ++
      checkFieldsFrom path owner (f.name :: seen) (position + 1) rest

def checkFields (path : List Text) (owner : Option TypeRep) (count : Int) (fields : List FieldInfo)
    (listType : Option TypeRep) : List Fault :=
  checkCount path "field" count fields.length listType ++ checkFieldsFrom path owner [] 0 fields

/-- Every breach of a struct descriptor. -/
def checkStruct (s : StructInfo) : List Fault :=
  checkName s.name ++
  (if s.kind.hasFields then []
    else [breach .typeMismatch [s.name]
      ("struct descriptor reports kind " ++ Text.quote s.kind.keyword)]) ++
  checkAttributes [s.name] s.attrs ++
  checkFields [s.name] s.type s.count s.fields s.listType

/-- The value of a variant, after the variants `earlier`, the latest first. -/
def checkValue (path : List Text) (integer : Bool) (earlier : List VariantInfo) (v : VariantInfo) :
    List Fault :=
  match integer, v.raw with
  | true, none => [breach .invalidInput path "integer enum variant without a value"]
  | false, some _ => [breach .invalidInput path "sum enum variant with an integer value"]
  | true, some raw =>
    match earlier.find? (·.raw == some raw) with
    | some prev =>
      [breach .duplicate path
        ("value " ++ Text.ofNat raw.toNat ++ " already used by " ++ prev.name)]
    | none => []
  | false, none => []

def checkVariant (e : EnumInfo) (earlier : List VariantInfo) (position : Nat) (v : VariantInfo) :
    List Fault :=
  let path := [e.name, v.name]
  (if v.index ≠ position then [.indexMismatch .validate path v.index position] else []) ++
  (if v.name.isEmpty then
      [.invalidInput .validate ("variant " ++ Text.ofNat position ++ " has no name")]
    else if earlier.any (·.name == v.name) then [.duplicate .validate "variant" v.name]
    else []) ++
  (if v.owner ≠ e.type then
    [.typeMismatch .validate path (TypeRep.describe v.owner) (TypeRep.describe e.type)] else []) ++
  checkAttributes path v.attrs ++
  checkValue path (!TypeRep.isNoType e.integer) earlier v ++
  checkFields path v.type v.count v.fields v.listType

def checkVariantsFrom (e : EnumInfo) : List VariantInfo → Nat → List VariantInfo → List Fault
  | _, _, [] => []
  | earlier, position, v :: rest =>
    checkVariant e earlier position v ++ checkVariantsFrom e (v :: earlier) (position + 1) rest

/-- Every breach of an enumeration, its variants' fields included. -/
def checkEnum (e : EnumInfo) : List Fault :=
  checkName e.name ++
  (if e.kind = .enum then []
    else [breach .typeMismatch [e.name]
      ("enum descriptor reports kind " ++ Text.quote e.kind.keyword)]) ++
  checkAttributes [e.name] e.attrs ++
  checkCount [e.name] "variant" e.count e.variants.length e.listType ++
  checkVariantsFrom e [] 0 e.variants

/-- A parameter against the inputs of the function type, if there is one. -/
def checkParameter (owner : Text) (inputs : Option (List TypeRep)) (position : Nat)
    (p : ParameterInfo) : List Fault :=
  let path := [owner, displayName p.name]
  (if p.index ≠ position then [.indexMismatch .validate path p.index position] else []) ++
  (if p.owner ≠ owner then
    [breach .typeMismatch path ("parameter owned by " ++ Text.quote p.owner)] else []) ++
  (match inputs.bind (·[position]?) with
    | some t =>
      if p.type ≠ some t then [.typeMismatch .validate path (TypeRep.describe p.type) t.text] else []
    | none => []) ++
  checkAttributes path p.attrs

def checkParametersFrom (owner : Text) (inputs : Option (List TypeRep)) :
    Nat → List ParameterInfo → List Fault
  | _, [] => []
  | position, p :: rest =>
    checkParameter owner inputs position p ++ checkParametersFrom owner inputs (position + 1) rest

/-- The result type against the outputs: none, the only one, or a tuple of several. -/
def checkResult (name : Text) (outputs : List TypeRep) (result : Option TypeRep) : List Fault :=
  let path : List Text := [name, "return"]
  match outputs with
  | [] =>
    if TypeRep.isNoType result then []
    else [.typeMismatch .validate path (TypeRep.describe result) "introspect.NoType"]
  | [t] =>
    if result = some t then []
    else [.typeMismatch .validate path (TypeRep.describe result) t.text]
  | _ =>
    if (result.bind TypeRep.fields?).map List.length = some outputs.length then []
    else
      [.of {
        path
        phase := .validate
        kind := .typeMismatch
        goType := TypeRep.describe result
        detail := "expected a tuple of " ++ Text.ofNat outputs.length ++ " results" }]

/-- Every breach of a function descriptor. -/
def checkFunction (f : FunctionInfo) : List Fault :=
  let signature :=
    match f.type.map TypeRep.underlying with
    | some (.function inputs outputs _) => some (inputs, outputs)
    | _ => none
  checkName f.name ++
  (if f.kind = .function then []
    else [breach .typeMismatch [f.name]
      ("function descriptor reports kind " ++ Text.quote f.kind.keyword)]) ++
  checkAttributes [f.name] f.attrs ++
  checkCount [f.name] "parameter" f.count f.parameters.length f.listType ++
  (match signature with
    | some (inputs, _) =>
      if inputs.length ≠ f.parameters.length then
        [.countMismatch .validate [f.name] "signature parameter" inputs.length f.parameters.length]
      else []
    | none => []) ++
  checkParametersFrom f.name (signature.map Prod.fst) 0 f.parameters ++
  match signature with
  | some (_, outputs) => checkResult f.name outputs f.result
  | none => []

end Contract

/-- Succeeds exactly when the contract is kept; otherwise every breach is reported. -/
def StructInfo.validate (s : StructInfo) : Except Failure Unit :=
  Failure.ofFaults s.name (Contract.checkStruct s)

def EnumInfo.validate (e : EnumInfo) : Except Failure Unit :=
  Failure.ofFaults e.name (Contract.checkEnum e)

def FunctionInfo.validate (f : FunctionInfo) : Except Failure Unit :=
  Failure.ofFaults f.name (Contract.checkFunction f)

/-- Validation by what a descriptor can answer, whatever kind it reports. -/
def Descriptor.validate? (d : Descriptor) : Option (Except Failure Unit) :=
  match d with
  | .struct s => some s.validate
  | .erasedStruct m => some m.info.validate
  | .enum e => some e.validate
  | .erasedEnum m => some m.info.validate
  | .function f => some f.validate
  | .erasedFunction m => some m.info.validate
  | .bare .. => none

end TypeAtlas
