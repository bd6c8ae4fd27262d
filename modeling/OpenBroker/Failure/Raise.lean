import OpenBroker.Failure.Message

/-!
# Raising errors

Not every class of errors exists, and not every error of a class can be made from any
arguments.  An error that cannot be made gives way to the one that complains about
that.
-/
namespace OpenBroker
namespace Failure

/-- The complaint about an argument that is to be a text. -/
def textFault? (place : Nat) : Value → Option Failure
  | .text _ => none
  | v =>
    let kind : Text := match v with
      | .null => "None"
      | v => v.kindName
    some (ofKind ("argument " ++ Decimal.ofNat place ++ " must be str, not " ++ kind))

/-- Whether a number fits into a word of the machine. -/
def isWord (n : Int) : Bool :=
  let limit : Int := Nat.pow 2 63
  decide (-limit ≤ n ∧ n < limit)

/-- The complaint about a value that is to be a whole number. -/
def noIntegerFault (v : Value) : Failure :=
  ofKind ("'" ++ v.kindName ++ "' object cannot be interpreted as an integer")

/-- The complaint about an argument that is to be a place. -/
def placeFault? (v : Value) : Option Failure :=
  match v.int? with
  | some n =>
    if isWord n then none
    else some (standard "OverflowError" "Python int too large to convert to C ssize_t")
  | none => some (noIntegerFault v)

/-- The complaint about an argument that is to be bytes. -/
def bytesFault? : Value → Option Failure
  | .bytes _ => none
  | v => some (ofKind ("a bytes-like object is required, not '" ++ v.kindName ++ "'"))

/-- The complaint about the number of arguments. -/
def countFault (demand : Text) (given : Nat) : Failure :=
  ofKind ("function takes " ++ demand ++ " arguments (" ++ Decimal.ofNat given ++ " given)")

/-- The complaint about arguments of an error about characters. -/
def characterFault? (family : Family) (args : List Value) : Option Failure :=
  match family, args with
  | .encoding, [set, t, start, stop, reason] =>
    [textFault? 1 set, textFault? 2 t, placeFault? start, placeFault? stop,
      textFault? 5 reason].findSome? id
  | .decoding, [set, bs, start, stop, reason] =>
    [textFault? 1 set, placeFault? start, placeFault? stop, textFault? 5 reason,
      bytesFault? bs].findSome? id
  | .translating, [t, start, stop, reason] =>
    [textFault? 1 t, placeFault? start, placeFault? stop, textFault? 4 reason].findSome? id
  | .translating, _ => some (countFault "exactly 4" args.length)
  | _, _ => some (countFault "exactly 5" args.length)

/-- The complaint about arguments of an error about a program. -/
def parsingFault? (args : List Value) : Option Failure :=
  match args with
  | [_, place] =>
    match items? place with
    | none => some (ofKind ("'" ++ place.kindName ++ "' object is not iterable"))
    | some parts =>
      if parts.length < 4 then some (countFault "at least 4" parts.length)
      else if 6 < parts.length then some (countFault "at most 6" parts.length)
      else if parts.length = 5 then
        some (ofKind "end_offset must be provided when end_lineno is provided")
      else none
  | _ => none

/-- The complaint about arguments of a group of errors: the errors to be grouped cannot
be given. -/
def groupFault (args : List Value) : Failure :=
  let maker : Text := "BaseExceptionGroup.__new__()"
  let grouped : Text := "second argument (exceptions)"
  match args with
  | [t, members] =>
    match t, members with
    | .text _, .list ms | .text _, .tuple ms =>
      standard "ValueError" <|
        if ms.isEmpty then grouped ++ " must be a non-empty sequence"
        else "Item 0 of " ++ grouped ++ " is not an exception"
    | .text _, .text ms =>
      standard "ValueError" <|
        if ms.isEmpty then grouped ++ " must be a non-empty sequence"
        else "Item 0 of " ++ grouped ++ " is not an exception"
    | .text _, .bytes ms =>
      standard "ValueError" <|
        if ms.isEmpty then grouped ++ " must be a non-empty sequence"
        else "Item 0 of " ++ grouped ++ " is not an exception"
    | .text _, _ => ofKind (grouped ++ " must be a sequence")
    | v, _ =>
      let kind : Text := match v with
        | .null => "None"
        | v => v.kindName
      ofKind (maker ++ " argument 1 must be str, not " ++ kind)
  | _ =>
    ofKind (maker ++ " takes exactly 2 arguments (" ++ Decimal.ofNat args.length ++ " given)")

/-- The complaint about arguments of an error of the operating system. -/
def systemFault? (blocking : Bool) (args : List Value) : Option Failure :=
  match blocking, args with
  | true, _ :: _ :: file :: more =>
    if 2 < more.length then none
    else
      match file with
      | .real _ => some (noIntegerFault file)
      | .int n =>
        if isWord n then none
        else some (standard "ValueError" "cannot fit 'int' into an index-sized integer")
      | _ => none
  | _, _ => none

/-- The complaint about too many arguments for a sentinel. -/
def sentinelFault? (args : List Value) : Option Failure :=
  if args.length ≤ 1 then none
  else
    some (ofKind ("BrokerError.__init__() takes from 1 to 2 positional arguments but "
      ++ Decimal.ofNat (args.length + 1) ++ " were given"))

/-- **Why an error cannot be made** from its class and its arguments, if it cannot. -/
def fault? (cls : ErrorClass) (args : List Value) : Option Failure :=
  match cls.lineage with
  | .error f => some (ofKind f.message)
  | .ok _ =>
    if cls.layouts.contains .group then some (groupFault args)
    else
      (if cls.isTakenBySentinel then sentinelFault? args else none).or <|
        match cls.taker with
        | .system => systemFault? (isBlocking cls args) args
        | .parsing => parsingFault? (keptArguments cls args)
        | .encoding | .decoding | .translating =>
          characterFault? cls.taker (keptArguments cls args)
        | _ => none

/-- **Raise** an error: the error of a class with arguments, or the one about why it
cannot be made. -/
def raise (cls : ErrorClass) (args : List Value) : Failure :=
  (fault? cls args).getD (.raised cls args)

end Failure
end OpenBroker
