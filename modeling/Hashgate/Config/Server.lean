import Hashgate.Config.Gate
import Hashgate.Config.Settings

/-! # Settings of the server

Where the server listens, what its gate asks for, and how much it notes down. -/

namespace Hashgate

structure ServerConfig where
  logLevel : String
  address : String
  complexity : UInt32
  waitMillis : UInt64
  deriving DecidableEq, Repr

namespace ServerConfig

def standard : ServerConfig :=
  ⟨"info", "0.0.0.0:8080", GateConfig.standard.complexity, GateConfig.standard.waitMillis⟩

def gate (config : ServerConfig) : GateConfig :=
  ⟨config.complexity, config.waitMillis.toNat * GateConfig.nanosPerMilli⟩

def validate (config : ServerConfig) : Except SettingsFault Unit :=
  if config.address.isEmpty then .error (.senseless "TCP_ADDR cannot be empty")
  else config.gate.validate.mapError fun e => .senseless e.message

def ofLookup (lookup : Lookup) : Except SettingsFault ServerConfig := do
  let complexity ← lookup.read "COMPLEXITY" Decimal.readUInt32 standard.complexity
  let waitMillis ← lookup.read "WAIT_POW_MS" Decimal.readUInt64 standard.waitMillis
  let config : ServerConfig :=
    { logLevel := lookup.text "LOG_LEVEL" standard.logLevel
      address := lookup.text "TCP_ADDR" standard.address
      complexity, waitMillis }
  config.validate
  return config

/-- What to note down, for each part of the server. -/
def logFilter (config : ServerConfig) : String :=
  "wisdom_server=" ++ config.logLevel ++ ",pow=" ++ config.logLevel ++ ",platform=" ++
    config.logLevel ++ ",wisdom=" ++ config.logLevel

end ServerConfig

end Hashgate
