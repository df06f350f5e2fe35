import LiquidationBot.Library.AbiWords

/-!
# Event logs and their indexed inputs

A log names its event by a signature and carries one word for each input: the
indexed inputs as topics, the others as data, each group in order. The signature
lists the inputs' types and does not say which of them are indexed. So two
declarations of one event that differ in their flags accept each other's logs
and read one input's word as another's; with equal flags every input gets its
own word back.
-/

namespace LiquidationBot.EventLogs

open AbiWords

/-- The type of an input. -/
inductive InputType where
  | address
  | uint (bits : Nat)
  | bool
deriving DecidableEq

/-- A decoded value. -/
inductive Value where
  | address (value : BitVec 160)
  | number (value : Nat)
  | truth (value : Bool)
deriving DecidableEq

variable {Name Field : Type}

/-- An input of an event declaration. -/
structure Input (Field : Type) where
  name : Field
  type : InputType
  indexed : Bool
deriving DecidableEq

/-- What the signature word stands for. -/
structure Signature (Name : Type) where
  name : Name
  types : List InputType
deriving DecidableEq

/-- An event declaration. -/
structure EventAbi (Name Field : Type) where
  name : Name
  inputs : List (Input Field)

/-- A log: its signature, the further topics and the words of its data. -/
structure LogRecord (Name : Type) where
  signature : Signature Name
  topics : List Word
  data : List Word

namespace EventAbi

/-- The signature leaves the flags out. -/
def signature (event : EventAbi Name Field) : Signature Name :=
  ⟨event.name, event.inputs.map Input.type⟩

/-- The same event with the given inputs indexed. -/
def reindexed [DecidableEq Field] (event : EventAbi Name Field) (fields : List Field) :
    EventAbi Name Field :=
  ⟨event.name, event.inputs.map (fun input =>
    { input with indexed := decide (input.name ∈ fields) })⟩

/-- Other flags leave the signature as it is. -/
theorem signature_reindexed [DecidableEq Field] (event : EventAbi Name Field)
    (fields : List Field) : (event.reindexed fields).signature = event.signature := by
  rw [signature, signature, reindexed, List.map_map]
  rfl

end EventAbi

/-- The word of a value. -/
def Value.word : Value → Word
  | .address value => ofUnsigned value
  | .number value => BitVec.ofNat 256 value
  | .truth value => ofBool value

/-- A value of an input's type; a number fits into a word. -/
def Value.HasType : Value → InputType → Prop
  | .address _, .address => True
  | .number value, .uint _ => value < 2 ^ 256
  | .truth _, .bool => True
  | _, _ => False

/-- The value in a word. An address is its low twenty bytes, a number is not
checked against its width, and a truth value is zero or one. -/
def InputType.read : InputType → Word → Option Value
  | .address, word => some (.address (word.setWidth 160))
  | .uint _, word => some (.number word.toNat)
  | .bool, word => (readBool word).map Value.truth

theorem setWidth_ofUnsigned {width : Nat} (small : width ≤ 256) (value : BitVec width) :
    (ofUnsigned value).setWidth width = value := by
  rw [ofUnsigned, BitVec.setWidth_setWidth_of_le value small, BitVec.setWidth_eq]

theorem read_word {value : Value} {type : InputType} (typed : value.HasType type) :
    type.read value.word = some value := by
  cases value with
  | address address =>
    cases type with
    | address =>
      rw [Value.word, InputType.read, setWidth_ofUnsigned (by decide)]
    | uint bits => cases typed
    | bool => cases typed
  | number number =>
    cases type with
    | uint bits =>
      rw [Value.word, InputType.read, BitVec.toNat_ofNat, Nat.mod_eq_of_lt typed]
    | address => cases typed
    | bool => cases typed
  | truth truth =>
    cases type with
    | bool =>
      rw [Value.word, InputType.read, readBool_ofBool]
      rfl
    | address => cases typed
    | uint bits => cases typed

/-- Words given to inputs in order; each input needs one. -/
def assign : List (Input Field) → List Word → Option (List (Field × Value))
  | [], _ => some []
  | _ :: _, [] => none
  | input :: inputs, word :: words =>
      (input.type.read word).bind (fun value =>
        (assign inputs words).map (fun rest => (input.name, value) :: rest))

/-- Inputs that are given their own values' words get their values. -/
theorem assign_words (pairs : List (Input Field × Value))
    (typed : ∀ pair ∈ pairs, pair.2.HasType pair.1.type) :
    assign (pairs.map Prod.fst) (pairs.map (fun pair => pair.2.word)) =
      some (pairs.map (fun pair => (pair.1.name, pair.2))) := by
  induction pairs with
  | nil => rfl
  | cons pair rest inductionHypothesis =>
    have here := read_word (typed pair List.mem_cons_self)
    have later := inductionHypothesis (fun other listed =>
      typed other (List.mem_cons_of_mem _ listed))
    rw [List.map_cons, List.map_cons, assign, here, Option.bind_some, later]
    rfl

/-- Decode a log as an event: topics to the indexed inputs, data to the others. -/
def decode [DecidableEq Name] (event : EventAbi Name Field) (record : LogRecord Name) :
    Option (List (Field × Value)) :=
  if record.signature = event.signature then
    (assign (event.inputs.filter Input.indexed) record.topics).bind (fun topics =>
      (assign (event.inputs.filter (fun input => !input.indexed)) record.data).map (fun data =>
        topics ++ data))
  else none

/-- The log of an event with given values. -/
def emit (event : EventAbi Name Field) (values : List Value) : LogRecord Name where
  signature := event.signature
  topics := ((event.inputs.zip values).filter (fun pair => pair.1.indexed)).map
    (fun pair => pair.2.word)
  data := ((event.inputs.zip values).filter (fun pair => !pair.1.indexed)).map
    (fun pair => pair.2.word)

/-- The values of an event, topics first. -/
def namedValues (event : EventAbi Name Field) (values : List Value) : List (Field × Value) :=
  ((event.inputs.zip values).filter (fun pair => pair.1.indexed)).map
      (fun pair => (pair.1.name, pair.2)) ++
    ((event.inputs.zip values).filter (fun pair => !pair.1.indexed)).map
      (fun pair => (pair.1.name, pair.2))

/-- A log decoded as the event that emitted it gives the emitted values. -/
theorem decode_emit [DecidableEq Name] (event : EventAbi Name Field) (values : List Value)
    (complete : values.length = event.inputs.length)
    (typed : ∀ pair ∈ event.inputs.zip values, pair.2.HasType pair.1.type) :
    decode event (emit event values) = some (namedValues event values) := by
  have zipped : (event.inputs.zip values).map Prod.fst = event.inputs :=
    List.map_fst_zip complete.ge
  have inputs : ∀ keep : Input Field → Bool, event.inputs.filter keep =
      ((event.inputs.zip values).filter (fun pair => keep pair.1)).map Prod.fst := by
    intro keep
    conv_lhs => rw [← zipped]
    exact List.filter_map
  rw [decode, emit, if_pos rfl, inputs, inputs]
  dsimp only
  rw [assign_words _ (fun pair member => typed pair (List.mem_of_mem_filter member)),
    assign_words _ (fun pair member => typed pair (List.mem_of_mem_filter member))]
  rfl

end LiquidationBot.EventLogs
