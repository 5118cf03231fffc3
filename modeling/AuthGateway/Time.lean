/-!
Time in whole seconds, in 64 bits with a sign. Sums and differences stop at the
ends of that range, so that a deadline never wraps into the past.
-/
namespace AuthGateway.Time

/-- The nearest second to a whole number of them. -/
def clamp (n : Int) : Int64 :=
  if n < Int64.minValue.toInt then Int64.minValue
  else if Int64.maxValue.toInt < n then Int64.maxValue
  else Int64.ofInt n

theorem toInt_clamp (n : Int) :
    (clamp n).toInt = max Int64.minValue.toInt (min n Int64.maxValue.toInt) := by
  have hmin : Int64.minValue.toInt = -2 ^ 63 := rfl
  have hmax : Int64.maxValue.toInt = 2 ^ 63 - 1 := rfl
  unfold clamp
  rw [hmin, hmax]
  split
  · omega
  · split
    · omega
    · have hsize : Int64.size = 2 ^ 64 := rfl
      rw [Int64.toInt_ofInt, hsize, Int.bmod_eq_of_le_mul_two] <;> omega

def after (t span : Int64) : Int64 :=
  clamp (t.toInt + span.toInt)

def span (start stop : Int64) : Int64 :=
  clamp (stop.toInt - start.toInt)

def ofSeconds (n : UInt64) : Int64 :=
  clamp n.toNat

theorem toInt_after (t s : Int64) :
    (after t s).toInt = max Int64.minValue.toInt (min (t.toInt + s.toInt) Int64.maxValue.toInt) :=
  toInt_clamp _

theorem toInt_span (s t : Int64) :
    (span s t).toInt = max Int64.minValue.toInt (min (t.toInt - s.toInt) Int64.maxValue.toInt) :=
  toInt_clamp _

end AuthGateway.Time
