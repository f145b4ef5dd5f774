import StubResolver.Message.Basic

/-! Messages as text: the header, the EDNS parameters, and each section that has something to
show. OPT records are not shown among the others. -/

namespace StubResolver.Message

/-- Lines, each with a line feed behind it. -/
def linesText (lines : List String) : String :=
  String.join (lines.map (· ++ "\n"))

/-- A section, unless it has no records but OPT records. -/
def sectionText (title : String) (records : List Record) : String :=
  let shown := records.filter fun r => !r.isOpt
  if shown.isEmpty then ""
  else linesText (("\n;; " ++ title ++ " SECTION:") :: shown.map Record.toText)

/-- The EDNS parameters, if there are any. -/
def ednsText (m : Message) : String :=
  match m.edns? with
  | some e => linesText ["\n;; OPT PSEUDOSECTION:", "; " ++ e.toText]
  | none => ""

/-- The presentation of a message. -/
def toText (m : Message) : String :=
  linesText [m.header.toText] ++ m.ednsText ++
    linesText ("\n;; QUESTION SECTION:" :: m.questions.map fun q => ";" ++ q.toText) ++
    sectionText "ANSWER" m.answers ++ sectionText "AUTHORITY" m.authority ++
    sectionText "ADDITIONAL" m.additional

end StubResolver.Message
