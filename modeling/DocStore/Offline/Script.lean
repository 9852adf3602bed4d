import DocStore.Offline.Command
import DocStore.Offline.Report

namespace DocStore.Offline

inductive Script where
  | finish (code : UInt8)
  | print (text : String) (next : Script)
  | warn (text : String) (next : Script)
  | save (path text : String) (next : Except IoError Unit → Script)

namespace Script

def fail (message : String) : Script := .warn ("Error: " ++ message ++ "\n") (.finish 1)

def saving (path text : String) (next : Script) : Script :=
  .save path text fun
    | .ok () => next
    | .error error => fail error.message

/-- Tells of every index that disagrees with its documents. -/
def tellDrifts (drifts : List (String × Drift)) (next : Script) : Script :=
  drifts.foldr (fun found script =>
    .warn ((StoreError.inconsistent found.2).message ++ "\n") script) next

/-- Saves a report on tables, after the documents if they are asked for. -/
def restore (tables : Tables) (out : String) (dump : Option String) : Script :=
  let report := tellDrifts tables.drifts (saving out (Report.ofTables tables).text (.finish 0))
  match dump with
  | none => report
  | some path => saving path tables.documentLines report

/-- Fails if an index disagrees with its documents. -/
def verify (tables : Tables) : Script :=
  let report := Report.ofTables tables
  tellDrifts tables.drifts <|
    if report.isConsistent then
      .print (s!"{report.indexes} indexes, {report.documents} documents, " ++
        "accounting consistent\n") (.finish 0)
    else
      fail (s!"{report.drifted.length} inconsistent index(es): " ++
        ", ".intercalate report.drifted)

end Script

namespace Command

def folder : Command → String
  | .restore folder _ _ | .verify folder => folder

/-- What a command does with the tables that were recovered for it. -/
def script (command : Command) : Except IoError Tables → Script
  | .error error => .fail error.message
  | .ok tables =>
      match command with
      | .restore _ out dump => .restore tables out dump
      | .verify _ => .verify tables

end Command

end DocStore.Offline
