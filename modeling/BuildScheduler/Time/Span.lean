import BuildScheduler.Json.Decode

/-!
# Spans of time

A span is a number of nanoseconds below `2 ^ 64` seconds. In JSON it is an object of its whole
seconds and the nanoseconds beyond them.
-/

namespace BuildScheduler

def nanosPerSecond : Nat := 1000000000

def nanosPerMilli : Nat := 1000000

def Span.bound : Nat := 18446744073709551616 * nanosPerSecond

structure Span where
  nanos : Nat
  nanos_lt : nanos < Span.bound
deriving DecidableEq

namespace Span

def zero : Span := ⟨0, by decide⟩

instance : Inhabited Span := ⟨zero⟩

/-- The span of that many nanoseconds, if it is short enough. -/
def ofNanos? (n : Nat) : Option Span := if h : n < bound then some ⟨n, h⟩ else none

/-- A 64-bit number of seconds. -/
def ofSeconds (n : UInt64) : Span :=
  ⟨n.toNat * nanosPerSecond, by have := n.toNat_lt; unfold bound nanosPerSecond; omega⟩

/-- A 64-bit number of milliseconds. -/
def ofMillis (n : UInt64) : Span :=
  ⟨n.toNat * nanosPerMilli, by have := n.toNat_lt; unfold bound nanosPerMilli nanosPerSecond; omega⟩

/-- Whole seconds. -/
def seconds (s : Span) : Nat := s.nanos / nanosPerSecond

/-- Nanoseconds beyond the whole seconds. -/
def subsecond (s : Span) : Nat := s.nanos % nanosPerSecond

theorem seconds_lt (s : Span) : s.seconds < 18446744073709551616 := by
  have := s.nanos_lt
  unfold bound nanosPerSecond at this
  unfold seconds nanosPerSecond
  omega

theorem seconds_subsecond (s : Span) : s.seconds * nanosPerSecond + s.subsecond = s.nanos := by
  unfold seconds subsecond nanosPerSecond
  omega

@[simp] theorem nanos_ofSeconds (n : UInt64) : (ofSeconds n).nanos = n.toNat * nanosPerSecond := rfl

@[simp] theorem nanos_ofMillis (n : UInt64) : (ofMillis n).nanos = n.toNat * nanosPerMilli := rfl

/-- Whole milliseconds. -/
def millis (s : Span) : Nat := s.nanos / nanosPerMilli

/-- What a reading of a span collects. -/
structure Parts where
  seconds : Nat := 0
  nanos : Nat := 0

def record : Json.Record Parts where
  title := "struct Duration"
  blank := {}
  fields := [
    ⟨"secs", .required, fun node parts => do pure { parts with seconds := ← Json.Decode.nat64 node }⟩,
    ⟨"nanos", .required, fun node parts => do pure { parts with nanos := ← Json.Decode.nat32 node }⟩]
  unknown := .refused

/-- Nanoseconds beyond a second are carried over. -/
def decode (node : Json.Node) : Except Json.ReadError Span := do
  let parts ← record.decode node
  match ofNanos? (parts.seconds * nanosPerSecond + parts.nanos) with
  | some span => .ok span
  | none => .error (.overflow "Duration")

def toJson (s : Span) : Json :=
  Json.object [("secs", .int s.seconds), ("nanos", .int s.subsecond)]

end Span

end BuildScheduler
