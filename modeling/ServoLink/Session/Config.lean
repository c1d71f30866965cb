namespace ServoLink

/-! ## Session configuration -/

/-- How long firmware needs, in milliseconds, before it accepts further requests. -/
structure SettleDelays where
  reload : UInt64 := 50
  scriptUpload : UInt64 := 100
  restoreDefaults : UInt64 := 1500
  deriving DecidableEq, Repr, Inhabited

/-- The time allowed for each transfer, in milliseconds, and the settle delays. -/
structure SessionConfig where
  timeout : UInt64 := 500
  settle : SettleDelays := {}
  deriving DecidableEq, Repr, Inhabited

/-- The whole seconds of the timeout. -/
def SessionConfig.timeoutSeconds (config : SessionConfig) : Nat :=
  config.timeout.toNat / 1000

/-- The nanoseconds that the timeout has beyond its whole seconds. -/
def SessionConfig.timeoutNanoseconds (config : SessionConfig) : Nat :=
  config.timeout.toNat % 1000 * 1000000

end ServoLink
