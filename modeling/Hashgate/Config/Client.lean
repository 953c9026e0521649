import Hashgate.Config.Settings

/-! # Settings of the client

Where the client finds the server, and how much it notes down. -/

namespace Hashgate

structure ClientConfig where
  logLevel : String
  serverAddress : String
  deriving DecidableEq, Repr

namespace ClientConfig

def standard : ClientConfig := ⟨"info", "127.0.0.1:8080"⟩

def ofLookup (lookup : Lookup) : Except SettingsFault ClientConfig :=
  let config : ClientConfig :=
    { logLevel := lookup.text "LOG_LEVEL" standard.logLevel
      serverAddress := lookup.text "SERVER_ADDR" standard.serverAddress }
  if config.serverAddress.isEmpty then .error (.senseless "SERVER_ADDR cannot be empty")
  else .ok config

/-- What to note down, for each part of the client. -/
def logFilter (config : ClientConfig) : String :=
  "wisdom_client=" ++ config.logLevel ++ ",pow=" ++ config.logLevel

end ClientConfig

end Hashgate
