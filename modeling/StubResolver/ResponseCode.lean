/-!
# Response codes

Values outside the registry are kept as numbers, so that an odd code never makes a response
unreadable.
-/

namespace StubResolver

/-- How a server fared with a query. -/
inductive ResponseCode where
  | noError | formErr | servFail | nxDomain | notImp | refused | yxDomain | yxRrSet | nxRrSet
  | notAuth | notZone | badVersOrBadSig | badKey | badTime | badMode | badName | badAlg | badTrunc
  | badCookie
  | unknown (value : UInt8)
  deriving DecidableEq, Repr

namespace ResponseCode

instance : Inhabited ResponseCode := ⟨noError⟩

/-- Every registered code, by ascending value. -/
def registered : List ResponseCode :=
  [noError, formErr, servFail, nxDomain, notImp, refused, yxDomain, yxRrSet, nxRrSet, notAuth,
    notZone, badVersOrBadSig, badKey, badTime, badMode, badName, badAlg, badTrunc, badCookie]

/-- The value of a code. -/
def value : ResponseCode → UInt8
  | noError => 0 | formErr => 1 | servFail => 2 | nxDomain => 3 | notImp => 4 | refused => 5
  | yxDomain => 6 | yxRrSet => 7 | nxRrSet => 8 | notAuth => 9 | notZone => 10
  | badVersOrBadSig => 16 | badKey => 17 | badTime => 18 | badMode => 19 | badName => 20
  | badAlg => 21 | badTrunc => 22 | badCookie => 23
  | unknown value => value

/-- The code of a value: the registered one if there is one. -/
def ofValue (value : UInt8) : ResponseCode :=
  (registered.find? fun c => c.value == value).getD (unknown value)

/-- Whether the response is an ordinary answer, which earns no warning. -/
def isAccepted (c : ResponseCode) : Bool :=
  c == noError || c == nxDomain

/-- The name in presented messages. -/
def toText : ResponseCode → String
  | noError => "NOERROR" | formErr => "FORMERR" | servFail => "SERVFAIL" | nxDomain => "NXDOMAIN"
  | notImp => "NOTIMP" | refused => "REFUSED" | yxDomain => "YXDOMAIN" | yxRrSet => "YXRRSET"
  | nxRrSet => "NXRRSET" | notAuth => "NOTAUTH" | notZone => "NOTZONE"
  | badVersOrBadSig => "BADVERS" | badKey => "BADKEY" | badTime => "BADTIME"
  | badMode => "BADMODE" | badName => "BADNAME" | badAlg => "BADALG" | badTrunc => "BADTRUNC"
  | badCookie => "BADCOOKIE"
  | unknown value => "RCODE" ++ toString value.toNat

@[simp] theorem value_ofValue (v : UInt8) : (ofValue v).value = v := by
  unfold ofValue
  cases h : registered.find? fun c => c.value == v with
  | none => rfl
  | some c => simpa using List.find?_some h

end ResponseCode

end StubResolver
