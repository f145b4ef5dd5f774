import StubResolver.Resolver.Run

/-!
# Discovery

Hosts publish texts, a link and addresses in TXT records. The character strings of a record are
one text; octets that are no UTF-8 are replaced in it.
-/

namespace StubResolver.Resolver

/-- The texts in the answers of a response, in order. -/
def textValues (response : Message) : List String :=
  response.answers.filterMap fun r => r.rdata.strings?.map fun t => Utf8.lossy t.characters

/-- What follows `key` in a text that begins with it. -/
def valueAfter? (key text : String) : Option String :=
  if key.toList.isPrefixOf text.toList then
    some (String.ofList (text.toList.drop key.toList.length))
  else none

/-- The host name without full stops at its end, below a label. -/
def below (label host : String) : String :=
  label ++ "." ++ String.ofList (Text.trimRight (· == '.') host.toList)

/-- Distinct texts in the order of their code points. -/
def sorted (texts : List String) : List String :=
  (texts.mergeSort fun a b => !decide (b < a)).eraseReps

/-- The first link among the texts of a response. -/
def linkIn? (response : Message) : Option String :=
  (textValues response).findSome? (valueAfter? "dnslink=")

/-- The addresses among the texts of a response. -/
def addressesIn (response : Message) : List String :=
  sorted ((textValues response).filterMap (valueAfter? "dnsaddr="))

variable {σ : Type}

/-- The distinct texts that a host publishes. -/
def textsOf (settings : Settings) (link : Link σ) (s : Shared) (w : σ) (host : String) :
    Outcome σ (List String) :=
  let o := query settings link s w host (.known .txt)
  ⟨o.shared, o.world, o.result.map fun r => sorted (textValues r)⟩

/-- The link that a host publishes. -/
def linkOf (settings : Settings) (link : Link σ) (s : Shared) (w : σ) (host : String) :
    Outcome σ String :=
  let o := query settings link s w (below "_dnslink" host) (.known .txt)
  ⟨o.shared, o.world, do
    match linkIn? (← o.result) with
    | some value => .ok value
    | none => .error (.noDnsLink host)⟩

/-- The addresses that a host publishes. -/
def addressesOf (settings : Settings) (link : Link σ) (s : Shared) (w : σ) (host : String) :
    Outcome σ (List String) :=
  let o := query settings link s w (below "_dnsaddr" host) (.known .txt)
  match o.result with
  | .ok r =>
    let found := addressesIn r
    ⟨o.shared.report (.addressesResolved host found.length), o.world, .ok found⟩
  | .error e => ⟨o.shared, o.world, .error e⟩

end StubResolver.Resolver
