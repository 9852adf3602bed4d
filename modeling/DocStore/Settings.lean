import DocStore.Network.Address
import DocStore.Settings.Environment

namespace DocStore

structure Settings where
  host : String
  portNumber : UInt16
  /-- Where the store lies; without it the store is in memory. -/
  dataFolder : Option String
  secret : Option String
  adminUser : String
  adminPassword : String
  tokenLifetime : UInt64
  certificatePath : Option String
  keyPath : Option String
deriving DecidableEq, Repr

inductive SettingsFault where
  | badPortNumber (value : String)
  | badLifetime (value : String)
  | halfEncrypted
deriving DecidableEq, Repr

namespace SettingsFault

def message : SettingsFault → String
  | .badPortNumber value => "LITESEARCH_PORT must be a port number, got " ++ Text.quoted value
  | .badLifetime value => "TOKEN_TTL_SECS must be a number of seconds, got " ++ Text.quoted value
  | .halfEncrypted => "TLS_CERT_PATH and TLS_KEY_PATH must be set together"

end SettingsFault

namespace Settings

def standard : Settings where
  host := "0.0.0.0"
  portNumber := 8080
  dataFolder := none
  secret := none
  adminUser := "admin"
  adminPassword := ""
  tokenLifetime := 3600
  certificatePath := none
  keyPath := none

/-- The value of a variable that is not empty. -/
def setValue? (environment : Environment) (name : String) : Option String :=
  (environment.get? name).filter fun value => !value.isEmpty

/-- A number below `limit` that a variable is set to. -/
def number? (environment : Environment) (name : String) (limit standard : Nat)
    (fault : String → SettingsFault) : Except SettingsFault Nat :=
  match setValue? environment name with
  | none => .ok standard
  | some value =>
      match Text.natural? limit value.toList with
      | some number => .ok number
      | none => .error (fault value)

def ofEnvironment (environment : Environment) : Except SettingsFault Settings := do
  let text (name : String) := setValue? environment name
  let portNumber ←
    number? environment "LITESEARCH_PORT" (2 ^ 16) standard.portNumber.toNat .badPortNumber
  let lifetime ←
    number? environment "TOKEN_TTL_SECS" (2 ^ 64) standard.tokenLifetime.toNat .badLifetime
  let certificatePath := text "TLS_CERT_PATH"
  let keyPath := text "TLS_KEY_PATH"
  if certificatePath.isSome != keyPath.isSome then .error .halfEncrypted
  else
    .ok
      { host := (text "LITESEARCH_HOST").getD standard.host
        portNumber := .ofNat portNumber
        dataFolder := text "DATA_DIR"
        secret := text "SECRET_KEY"
        adminUser := (text "ADMIN_USER").getD standard.adminUser
        adminPassword := (text "ADMIN_PASSWORD").getD standard.adminPassword
        tokenLifetime := .ofNat lifetime
        certificatePath
        keyPath }

/-- Whether tokens are asked for. -/
def isGuarded (settings : Settings) : Bool := settings.secret.isSome

def listenText (settings : Settings) : String :=
  s!"{settings.host}:{settings.portNumber.toNat}"

/-- The address to listen at, or what to say if the host is none. -/
def listenAddress (settings : Settings) : Except String Network.Address :=
  match Network.Address.ofText? settings.listenText with
  | some address => .ok address
  | none => .error ("invalid listen address " ++ settings.listenText)

/-- Whether these are the credentials of the administrator.  Without a password nobody is. -/
def admits (settings : Settings) (user password : String) : Bool :=
  !settings.adminPassword.isEmpty && user == settings.adminUser &&
    password == settings.adminPassword

end Settings

end DocStore
