import ElfInspect.Query
import ElfInspect.Section.Summary

/-!
# Sessions

A session puts queries to one source, one step at a time, and keeps the latest header,
section list and name table for the steps that follow. A step that fails leaves them as they
were.
-/

namespace ElfInspect

structure Session where
  source : Source
  header? : Option FileHeader := none
  sections : List SectionHeader := []
  names : NameTable := {}

namespace Session

inductive Step where
  | length
  | readAt (label : String) (extent : Extent)
  | readHeader
  | setHeader (header : FileHeader)
  /-- Checks the kept header against a file length, that of the source if none is given. -/
  | checkTables (fileLength? : Option UInt64)
  | readSections
  | setSections (sections : List SectionHeader)
  | sectionAt (index : Nat)
  | linked (index : Nat)
  | loadNames
  | resolve (offset : UInt32)
  | summary (index : Nat)
  deriving DecidableEq, Repr

inductive Answer where
  | length (length : UInt64)
  | reply (reply : Reply)
  | fault (fault : Fault)
  | noHeader
  | sectionAt (found? : Option SectionHeader)
  /-- The sections that a section's link and info lead to. -/
  | linked (found? : Option (Option SectionHeader × Option SectionHeader))
  | name (name : String)
  | summary (found? : Option SectionSummary)
  deriving DecidableEq, Repr

/-- What a step comes to: its answer, its part of the log, and the session afterwards. -/
structure Turn where
  answer : Answer
  log : List Event := []
  session : Session

/-- Keeps what a reply brings for the steps that follow. -/
def keep (session : Session) : Reply → Session
  | .header header => { session with header? := some header }
  | .sections sections => { session with sections }
  | .names names => { session with names }
  | .bytes _ | .passed => session

/-- Puts a query to the source. -/
def ask (session : Session) (query : Query) : Turn :=
  let outcome := query.perform session.source
  let session := { session with source := outcome.source }
  match outcome.result with
  | .ok reply => { answer := .reply reply, log := outcome.log, session := session.keep reply }
  | .error fault => { answer := .fault fault, log := outcome.log, session }

/-- Puts a query that is made from the kept header. -/
def askWithHeader (session : Session) (query : FileHeader → Query) : Turn :=
  match session.header? with
  | some header => session.ask (query header)
  | none => { answer := .noHeader, session }

def step (session : Session) : Step → Turn
  | .length => { answer := .length session.source.length, session }
  | .readAt label extent => session.ask (.readAt (.other label) extent)
  | .readHeader => session.ask .readHeader
  | .setHeader header =>
    { answer := .reply (.header header), session := session.keep (.header header) }
  | .checkTables fileLength? =>
    session.askWithHeader fun header =>
      .checkTables header (fileLength?.getD session.source.length)
  | .readSections => session.askWithHeader .readSections
  | .setSections sections =>
    { answer := .reply (.sections sections), session := session.keep (.sections sections) }
  | .sectionAt index => { answer := .sectionAt session.sections[index]?, session }
  | .linked index =>
    let found? := session.sections[index]?.map fun sh =>
      (sh.linked? session.sections, sh.infoSection? session.sections)
    { answer := .linked found?, session }
  | .loadNames => session.askWithHeader fun header => .loadNames header session.sections
  | .resolve offset => { answer := .name (session.names.resolve offset), session }
  | .summary index =>
    match session.sections[index]? with
    | some sh =>
      { answer := .summary (some (SectionSummary.ofHeader session.names index sh))
        log := (SectionSummary.warning? session.names index sh).toList
        session }
    | none => { answer := .summary none, session }

/-- The turns of a list of steps, each on the session that the one before it left; `turns`
holds the earlier ones, latest first. -/
def turnsFrom (session : Session) (turns : List Turn) : List Step → List Turn
  | [] => turns.reverse
  | next :: steps =>
    let turn := session.step next
    turnsFrom turn.session (turn :: turns) steps

def turns (session : Session) (steps : List Step) : List Turn :=
  session.turnsFrom [] steps

end Session

end ElfInspect
