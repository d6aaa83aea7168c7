import SpanFlow.Text.Description

/-!
# Trace flags

Eight bits that travel with a trace. The lowest says that the trace is sampled; the others have no
meaning here and are handed on.

## Main results

* `isSampled_withSampled`: setting the sampled bit sets just what is asked for.
-/

namespace SpanFlow

/-- The flags of a trace. -/
structure TraceFlags where
  bits : UInt8
  deriving DecidableEq

namespace TraceFlags

/-- No flag set. -/
def none : TraceFlags := ⟨0⟩

/-- The sampled bit alone. -/
def sampled : TraceFlags := ⟨1⟩

/-- Whether the sampled bit is set. -/
def isSampled (f : TraceFlags) : Bool := f.bits &&& 1 == 1

/-- The flags that both sets have. -/
def inter (a b : TraceFlags) : TraceFlags := ⟨a.bits &&& b.bits⟩

/-- The flags that either set has. -/
def union (a b : TraceFlags) : TraceFlags := ⟨a.bits ||| b.bits⟩

/-- The flags that a set has not. -/
def compl (f : TraceFlags) : TraceFlags := ⟨~~~f.bits⟩

/-- The flags with the sampled bit set or cleared, the others as they were. -/
def withSampled (f : TraceFlags) (on : Bool) : TraceFlags :=
  if on then f.union sampled else f.inter sampled.compl

/-- The description of flags. -/
def describe (f : TraceFlags) : String := Text.tuple "TraceFlags" (toString f.bits.toNat)

theorem or_one_and_one (bits : UInt8) : (bits ||| 1) &&& 1 = 1 := by
  have h : ∀ b : BitVec 8, (b ||| 1#8) &&& 1#8 = 1#8 := by decide
  exact UInt8.toBitVec_inj.1 (h bits.toBitVec)

/-- Setting the sampled bit sets just what is asked for. -/
theorem isSampled_withSampled (f : TraceFlags) (on : Bool) :
    (f.withSampled on).isSampled = on := by
  cases on with
  | false => simp [isSampled, withSampled, inter, compl, sampled, UInt8.and_assoc]
  | true => simp [isSampled, withSampled, union, sampled, or_one_and_one]

end TraceFlags

end SpanFlow
