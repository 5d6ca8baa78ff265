import RobotClient.Console.Table
import RobotClient.Context.Basic
import RobotClient.Json.Printer

set_option autoImplicit false

/-! # Summaries of runs

What a run of a context came to: the context's status right after its initialization, the node that
was created, the signal that ended the run, and the application's own arguments. -/

namespace RobotClient.Console

/-- What a run came to. -/
structure Summary where
  context : Status
  node : Option String := none
  /-- The signal that ended the run; without one it was the timeout. -/
  signal : Option String := none
  plain : List String := []
deriving DecidableEq, Repr, Inhabited

namespace Summary

/-- A summary in JSON; a node and a signal are left out when there is none. -/
def toJson (s : Summary) : Json :=
  .object ([("context", s.context.toJson)] ++ Json.present "node" .text s.node
    ++ Json.present "signal" .text s.signal ++ [("non_ros_args", Json.texts s.plain)])

/-- The summary that JSON gives. -/
def ofJson? (value : Json) : Option Summary := do
  let r ← Json.Record.of? 4 value
  return {
    context := ← r.required 0 "context" Status.ofJson?
    node := ← r.optional 1 "node" Json.text?
    signal := ← r.optional 2 "signal" Json.text?
    plain := ← r.required 3 "non_ros_args" (Json.listOf? Json.text?) }

/-- The rows of a summary's table. -/
def rows (s : Summary) : List (List String) :=
  [["Context", contextName s.context.id.toNat],
    ["Domain id", (s.context.domainId.map toString).getD "-"],
    ["Signal handlers", (s.context.handlers.map HandlerOptions.name).getD "-"],
    ["Owns handlers", toString s.context.ownsHandlers]]
  ++ s.node.toList.map (fun node => ["Node", node])
  ++ (if s.plain.isEmpty then [] else [["Arguments", String.intercalate " " s.plain]])
  ++ [["Shutdown by", s.signal.getD "timeout"]]

/-- A summary as text for a terminal. -/
def toText (s : Summary) : String :=
  title "Session" ++ "\n" ++ (Table.mk ["Field", "Value"] s.rows).toText

/-- A summary in a format: JSON if it is `json`, else text. -/
def inFormat (format : String) (s : Summary) : String :=
  if format = "json" then s.toJson.pretty else s.toText

end Summary
end RobotClient.Console
