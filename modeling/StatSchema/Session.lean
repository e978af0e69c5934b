/-
Statistics in use. Every thread has a live record that hooks and updates write to; records can be
moved out of it, updated on their own and published to aggregators. Of a hook that calls another
function only the call can be seen.
-/
import StatSchema.Hook
import StatSchema.Report.Lines
import StatSchema.Slots

namespace StatSchema

/-- Generated statistics as they are compiled: whether hooks work, what overrides them, and how
words overflow. -/
structure Program where
  compiled : CompiledSchema
  enabled : Bool
  overrides : List Override
  overflow : Overflow

/-- All records and aggregators by number, and the live record of each thread. -/
structure Session where
  live : Slots Record
  records : Slots Record
  aggregators : Slots (Ledger Record)

/-- What a hook hands on to the function that overrides it. -/
inductive Argument where
  | nothing
  | word (amount : UInt64)
  | aggregator (ledger : Ledger Record)

/-- What can be seen from outside. -/
inductive Event where
  | called (target : Path) (argument : Argument)
  | printed (text : String)

/-- What comes of an action. -/
structure Reaction where
  session : Session
  events : List Event := []
  panic : Option Panic := none

/-- What is done to statistics. Metrics are given by name, everything else by number. -/
inductive Action where
  /-- Calls the hook of a metric so many times. -/
  | hook (thread : Nat) (metric : String) (amount : UInt64) (times : Nat)
  | publishHook (thread aggregator : Nat)
  | clearHook (aggregator : Nat)
  | dumpHook (aggregator : Nat)
  /-- Updates the live record while it is lent. -/
  | updateCurrent (thread : Nat) (metric : String) (amount : UInt64)
  /-- Calls the hook of a metric while the live record is lent. -/
  | hookWhileLent (thread : Nat) (metric : String) (amount : UInt64)
  | takeCurrent (thread record : Nat)
  | mutate (record : Nat) (metric : String) (amount : UInt64) (times : Nat)
  | reset (record : Nat)
  | copy (record target : Nat)
  | publish (aggregator record times : Nat)
  | clear (aggregator : Nat)
  | copyAggregator (aggregator target : Nat)

namespace Program

/-- What a call of a hook does. -/
def effect (program : Program) (hook : Hook) : HookEffect :=
  hook.effect program.enabled (overrideOf? program.overrides hook.name)

/-- The session before anything is done. -/
def start (program : Program) : Session where
  live := { initial := .empty program.compiled }
  records := { initial := .empty program.compiled }
  aggregators := { initial := {} }

/-- The record after the mutator of a metric has been called so many times. -/
def mutated (program : Program) (record : Record) (metric : String) (amount : UInt64)
    (times : Nat) : Record :=
  match program.compiled.storage.find? (·.name == metric) with
  | some entry => record.mutate entry amount times
  | none => record

/-- The report of an aggregator. -/
def report (program : Program) (perRecord : Bool) (ledger : Ledger Record) : Lines :=
  program.compiled.ledgerLines program.overflow perRecord ledger

/-- What the hook of a metric hands on. -/
def given (entry : BaseEntry) (amount : UInt64) : Argument :=
  match entry.kind with
  | .counter => .nothing
  | .max => .word amount
  | .sum => .word amount

/-- What comes of calling a hook so many times, given what comes of its own work. -/
def call (program : Program) (session : Session) (hook : Hook) (argument : Argument) (times : Nat)
    (work : Reaction) : Reaction :=
  match program.effect hook with
  | .nothing => { session }
  | .call target => { session, events := List.replicate times (.called target argument) }
  | .work => work

/-- What comes of calling the hook of a metric, given what comes of its own work. -/
def callMetric (program : Program) (session : Session) (metric : String) (amount : UInt64)
    (times : Nat) (work : Reaction) : Reaction :=
  match program.compiled.storage.find? (·.name == metric) with
  | some entry => program.call session (.metric entry) (given entry amount) times work
  | none => { session }

/-- The session in which a thread's live record has been updated. -/
def updated (program : Program) (session : Session) (thread : Nat) (metric : String)
    (amount : UInt64) (times : Nat) : Session :=
  { session with
    live := session.live.set thread
      (program.mutated (session.live.get thread) metric amount times) }

/-- The session in which a thread's live record has been moved out, and that record. -/
def taken (program : Program) (session : Session) (thread : Nat) : Record × Session :=
  (session.live.get thread,
    { session with live := session.live.set thread (.empty program.compiled) })

/-- The session with one aggregator changed. -/
def withAggregator (session : Session) (aggregator : Nat)
    (change : Ledger Record → Ledger Record) : Session :=
  let changed := change (session.aggregators.get aggregator)
  { session with aggregators := session.aggregators.set aggregator changed }

/-- Does an action. -/
def perform (program : Program) (session : Session) : Action → Reaction
  | .hook thread metric amount times =>
    program.callMetric session metric amount times
      { session := program.updated session thread metric amount times }
  | .publishHook thread aggregator =>
    let (record, emptied) := program.taken session thread
    program.call session (.lifecycle .publish) (.aggregator (session.aggregators.get aggregator)) 1
      { session := withAggregator emptied aggregator (·.publish record) }
  | .clearHook aggregator =>
    program.call session (.lifecycle .clear) (.aggregator (session.aggregators.get aggregator)) 1
      { session := withAggregator session aggregator (·.clear) }
  | .dumpHook aggregator =>
    let ledger := session.aggregators.get aggregator
    let lines := program.report true ledger
    program.call session (.lifecycle .dump) (.aggregator ledger) 1
      { session, events := [.printed (String.join lines.written)], panic := lines.panic? }
  | .updateCurrent thread metric amount =>
    { session := program.updated session thread metric amount 1 }
  | .hookWhileLent _thread metric amount =>
    program.callMetric session metric amount 1 { session, panic := some .borrowed }
  | .takeCurrent thread record =>
    let (taken, emptied) := program.taken session thread
    { session := { emptied with records := emptied.records.set record taken } }
  | .mutate record metric amount times =>
    { session := { session with
        records := session.records.set record
          (program.mutated (session.records.get record) metric amount times) } }
  | .reset record =>
    { session := { session with records := session.records.set record (.empty program.compiled) } }
  | .copy record target =>
    { session := { session with
        records := session.records.set target (session.records.get record) } }
  | .publish aggregator record times =>
    { session := withAggregator session aggregator
        (·.publishAll (List.replicate times (session.records.get record))) }
  | .clear aggregator => { session := withAggregator session aggregator (·.clear) }
  | .copyAggregator aggregator target =>
    { session := withAggregator session target fun _ => session.aggregators.get aggregator }

end Program

end StatSchema
