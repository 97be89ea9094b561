import DuplexRpc.Sample.Functions
import DuplexRpc.Service

/-!
Sample services: arithmetic and events in each way to declare a method, and services whose
declarations are at fault.
-/

namespace DuplexRpc.Sample

def carried (name : String) : Decoder Value :=
  (Carried.decoder? name).getD .value

def give (v : Value) : Script :=
  .done (.ok v)

def giveInt (i : Int64) : Script :=
  give (.ofInt64 i)

def invalid (message : String) : Script :=
  .fail (.invalidParams message)

/-- An integer, unless it is too large. -/
def giveChecked (i : Int) (overflow : Script) : Script :=
  if -0x8000000000000000 ≤ i ∧ i < 0x8000000000000000 then giveInt (Int64.ofInt i) else overflow

def twoInts (labels : String × String) (f : Int64 → Int64 → Script) :
    Context → List Value → Script := fun _ args =>
  .argument args 0 labels.1 .int64 fun a =>
    .argument args 1 labels.2 .int64 fun b => f a b

def sumOf (a b : Int64) : Script :=
  giveChecked (a.toInt + b.toInt) (invalid "overflow")

/-- The quotient of two integers, rounded toward zero. -/
def quotient (byZero : Script) (a b : Int64) : Script :=
  if b = 0 then byZero else giveChecked (a.toInt.tdiv b.toInt) byZero

/-- The identifiers of the services among all places of descriptors. -/
def placeOf (service method : Nat) : Nat :=
  service * 100 + method

def method (d : MethodDescriptor) (args : List String) (result : String)
    (run : Context → List Value → Script) : ServiceMethod :=
  { descriptor := d, args := args.map carried, result := carried result, run }

/-- A greeting, as many times as asked for. -/
def greeting (name : String) (times : Option UInt8) : String :=
  " ".intercalate (List.replicate (times.getD 1).toNat s!"hello {name}!")

/-- Waits at a gate whose name is the first argument. -/
def waitAtKey : Context → List Value → Script := fun _ args =>
  .argument args 0 "key" .string fun key => .pass key give

def math : Service where
  name := "Math"
  basePath := some "math"
  timeoutMs := some 60000
  methods :=
    [method
        { place := placeOf 0 0, ident := "add", params := ["a", "b"], resultType := "i64" }
        ["i64", "i64"] "i64" (twoInts ("a", "b") sumOf),
      method
        { place := placeOf 0 1, ident := "scale", packing := some .named,
          params := ["value", "factor"], resultType := "f64" }
        ["f64", "f64"] "f64" fun _ args =>
          .argument args 0 "value" .double fun x =>
            .argument args 1 "factor" .double fun y => give (.ofDouble (x.mul y)),
      method
        { place := placeOf 0 2, ident := "sum", packing := some .single, params := ["values"],
          resultType := "i64" }
        ["vec_i64"] "i64" fun _ args =>
          .argument args 0 "values" (Decoder.list .int64) fun values =>
            giveInt (values.foldl (· + ·) 0),
      method
        { place := placeOf 0 3, ident := "div", name := some "divide", packing := some .named,
          params := ["dividend", "divisor"], resultType := "i64" }
        ["i64", "i64"] "i64"
        (twoInts ("dividend", "divisor") fun a b =>
          quotient
            (.fail ((RpcError.invalidParams "division by zero").withData
              (.ofFields [("dividend", .ofInt64 a)]))) a b),
      method
        { place := placeOf 0 4, ident := "delayed", params := ["key", "value"],
          resultType := "i64", returnsFuture := true }
        ["string", "i64"] "i64" fun _ args =>
          .argument args 0 "key" .string fun key =>
            .argument args 1 "value" .int64 fun value =>
              (Script.pass key fun _ => giveInt value).joined,
      method
        { place := placeOf 0 5, ident := "stall", params := ["key"], resultType := "Value",
          timeoutMs := some 15 }
        ["string"] "value" waitAtKey,
      method
        { place := placeOf 0 6, ident := "forever", params := ["key"], resultType := "Value",
          returnsFuture := true, timeoutMs := some (-1) }
        ["string"] "value" waitAtKey,
      method
        { place := placeOf 0 7, ident := "greet", params := ["name", "times"],
          resultType := "String" }
        ["string", "option_u8"] "string" fun _ args =>
          .argument args 0 "name" .string fun name =>
            .argument args 1 "times" (Decoder.optional .uint8) fun times =>
              give (.str (greeting name times)),
      method
        { place := placeOf 0 8, ident := "second", params := ["", "y"], resultType := "i64" }
        ["i64", "i64"] "i64" (twoInts ("0", "y") fun _ y => giveInt y),
      method
        { place := placeOf 0 9, ident := "explode", resultType := "()" }
        [] "unit" fun _ _ => .panic (.text "boom"),
      method
        { place := placeOf 0 10, ident := "version", resultType := "String" }
        [] "string" fun _ _ => give (.str "v1")]

def event (d : MethodDescriptor) (args : List String) (run : Context → List Value → Script) :
    ServiceMethod :=
  method { d with kind := .notification, resultType := "()" } args "unit" run

def events : Service where
  name := "Events"
  basePath := some "events"
  methods :=
    [event
        { place := placeOf 1 0, ident := "tick", packing := some .named, params := ["count"],
          resultType := "" }
        ["u64"] fun ctx args =>
          .argument args 0 "count" .uint64 fun count =>
            .log (.ofFields [("tick", .ofUInt64 count), ("method", .str ctx.method)]) finished,
      event
        { place := placeOf 1 1, ident := "note", params := ["level", "text"], resultType := "" }
        ["string", "string"] fun _ args =>
          .argument args 0 "level" .string fun level =>
            .argument args 1 "text" .string fun text =>
              .log (.ofFields [("level", .str level), ("text", .str text)]) finished,
      event
        { place := placeOf 1 2, ident := "reset", name := some "reset", packing := some .single,
          params := ["to"], timeoutMs := some 0, resultType := "" }
        ["option_i64"] fun _ args =>
          .argument args 0 "to" (Decoder.optional .int64) fun count =>
            .log (.ofFields [("reset", (count.map Value.ofInt64).getD .null)])
              (if count.isSome then finished else .fail (.ofKind .invalidParams))]

/-- A service whose second method has too many parameters for its packing. -/
def badSingle : Service where
  name := "BadSingle"
  basePath := some ""
  methods :=
    [method { place := placeOf 2 0, ident := "good", resultType := "i64" } [] "i64"
        fun _ _ => giveInt 1,
      method
        { place := placeOf 2 1, ident := "bad_single", packing := some .single,
          params := ["a", "b"], resultType := "i64" }
        ["i64", "i64"] "i64" (twoInts ("a", "b") sumOf)]

/-- A service with a parameter that lacks the name it needs. -/
def badNamed : Service where
  name := "BadNamed"
  timeoutMs := some 0
  methods :=
    [method
        { place := placeOf 3 0, ident := "bad_named", packing := some .named,
          params := ["a", ""], resultType := "i64" }
        ["i64", "i64"] "i64" (twoInts ("a", "1") sumOf)]

/-- A service with a notification that returns a future. -/
def badFuture : Service where
  name := "BadFuture"
  basePath := some "bad"
  methods :=
    [method
        { place := placeOf 4 0, ident := "bad_future", kind := .notification, resultType := "()",
          returnsFuture := true }
        [] "unit" fun _ _ => finished]

/-- A service that calls the methods of others in ways that do not fit. -/
def mismatch : Service where
  name := "Mismatch"
  methods :=
    [method
        { place := placeOf 5 0, ident := "add_text", name := some "math/add",
          params := ["a", "b"], resultType := "i64" }
        ["string", "string"] "i64" fun _ _ => finished,
      method
        { place := placeOf 5 1, ident := "version_number", name := some "math/version",
          resultType := "i64" }
        [] "i64" fun _ _ => finished,
      method
        { place := placeOf 5 2, ident := "scale_positional", name := some "math/scale",
          params := ["value", "factor"], resultType := "f64" }
        ["f64", "f64"] "f64" fun _ _ => finished,
      method { place := placeOf 5 3, ident := "missing", resultType := "()" } [] "unit"
        fun _ _ => finished]

/-- A service that tells about its own endpoint. -/
def introspection : Service where
  name := "MetaService"
  basePath := some "meta"
  methods :=
    [method { place := placeOf 6 0, ident := "list_methods", resultType := "Vec<String>" } []
        "vec_string" fun _ _ =>
          .look fun view => give (.arr (view.methods.map .str)),
      method
        { place := placeOf 6 1, ident := "is_request_pending", params := ["id"],
          resultType := "bool" }
        ["id"] "bool" fun _ args =>
          .argument args 0 "id" Id.decoder fun id =>
            .look fun view => give (.bool (view.isPending id))]

def demoMath : Service where
  name := "MathService"
  basePath := some "math"
  timeoutMs := some 5000
  methods :=
    [method
        { place := placeOf 7 0, ident := "add", params := ["a", "b"], resultType := "i64" }
        ["i64", "i64"] "i64" (twoInts ("a", "b") sumOf),
      method
        { place := placeOf 7 1, ident := "div", packing := some .named,
          params := ["dividend", "divisor"], resultType := "i64" }
        ["i64", "i64"] "i64"
        (twoInts ("dividend", "divisor") (quotient (invalid "division by zero")))]

def demoEvents : Service where
  name := "EventsService"
  basePath := some "events"
  methods :=
    [event
        { place := placeOf 8 0, ident := "tick", packing := some .single, params := ["tick"],
          resultType := "" }
        ["tick"] fun _ args =>
          .argument args 0 "tick" Tick.decoder fun t => .log t.layout.sorted finished]

def services : List (String × Service) :=
  [("math", math), ("events", events), ("bad_single", badSingle), ("bad_named", badNamed),
    ("bad_future", badFuture), ("mismatch", mismatch), ("meta", introspection),
    ("demo_math", demoMath), ("demo_events", demoEvents)]

def service? (name : String) : Option Service :=
  services.lookup name

end DuplexRpc.Sample
