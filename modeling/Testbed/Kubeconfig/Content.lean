import Testbed.Yaml.Record

namespace Testbed
namespace Kubeconfig

/-!
What a configuration file says: clusters, users and contexts under their names, and which context is the
current one. Reading checks every field that has a meaning, and keeps those that something depends on.
-/

open Yaml

/-- A cluster: its address, and how to reach and trust it. -/
structure Cluster where
  server : Option String
  /-- A file with certificates. -/
  authority : Option String
  /-- Certificates as base 64 text. -/
  authorityData : Option String
  /-- The name that the server has to prove, in place of the one in its address. -/
  serverName : Option String
  proxy : Option String

/-- Another program that knows how to authenticate. -/
structure Provider where
  name : String
  settings : List (String × String)

/-- A user's credentials. -/
structure Credentials where
  username : Option String := none
  password : Option String := none
  token : Option String := none
  tokenFile : Option String := none
  /-- A certificate and its key, as base 64 text. -/
  certificateData : Option String := none
  keyData : Option String := none
  /-- The user to act as, and its groups. -/
  actingAs : Option String := none
  actingGroups : List String := []
  provider : Option Provider := none
  /-- Whether a command gives the credentials. -/
  fromCommand : Bool := false

/-- A context: cluster, user and namespace. -/
structure Context where
  cluster : String
  user : Option String
  space : Option String

/-- An entry of a list, with its name. An entry without a value says nothing. -/
structure Named (α : Type) where
  name : String
  value : Option α

/-- What a configuration file says. -/
structure Content where
  clusters : List (Named Cluster) := []
  users : List (Named Credentials) := []
  contexts : List (Named Context) := []
  currentContext : Option String := none
  kind : Option String := none
  version : Option String := none

/-- The value of the first entry of a name. -/
def lookup (name : String) (entries : List (Named α)) : Option α :=
  (entries.find? fun entry => entry.name == name).bind Named.value

/-! ## Reading -/

/-- A field that may be absent or nothing, and a text otherwise. -/
def text? : Option Value → Option (Option String) :=
  Value.optional Value.toString?

/-- An extension, of which only the form is looked at. -/
def checkExtension (value : Value) : Option Unit := do
  let [name, extension] ← value.fields? ["name", "extension"] 0 | none
  let _ ← (← name).toString?
  if (← extension).isPlain then some () else none

/-- Extensions, if there are any. -/
def checkExtensions : Option Value → Option (Option (List Unit)) :=
  Value.optional (Value.toList? checkExtension)

/-- Preferences, of which only the form is looked at. -/
def checkPreferences (value : Value) : Option Unit := do
  let [colors, extensions] ← value.fields? ["colors", "extensions"] 0 | none
  let _ ← Value.optional Value.toBool? colors
  let _ ← checkExtensions extensions
  some ()

def Cluster.ofValue (value : Value) : Option Cluster := do
  let [server, insecure, authority, authorityData, proxy, compression, serverName, extensions] ←
    value.fields?
      ["server", "insecure-skip-tls-verify", "certificate-authority", "certificate-authority-data",
        "proxy-url", "disable-compression", "tls-server-name", "extensions"] 0 | none
  let _ ← Value.optional Value.toBool? insecure
  let _ ← Value.optional Value.toBool? compression
  let _ ← checkExtensions extensions
  return {
    server := ← text? server
    authority := ← text? authority
    authorityData := ← text? authorityData
    serverName := ← text? serverName
    proxy := ← text? proxy }

def Provider.ofValue (value : Value) : Option Provider := do
  let [name, settings] ← value.fields? ["name", "config"] 1 | none
  return {
    name := ← (← name).toString?
    settings := ← Value.defaulted [] Value.toTexts? settings }

/-- How a command may speak with people. A tag can say it as well. -/
def checkInteraction (value : Value) : Option Unit :=
  let isMode (mode : String) : Bool := ["Never", "IfAvailable", "Always"].contains mode
  match value with
  | .string mode | .tagged mode .null => if isMode mode then some () else none
  | _ => none

/-- A command, of which only the form is looked at. -/
def checkCommand (value : Value) : Option Unit := do
  let [version, command, arguments, environment, interaction, informs] ←
    value.fields?
      ["apiVersion", "command", "args", "env", "interactiveMode", "provideClusterInfo"] 1 | none
  let _ ← text? version
  let _ ← text? command
  let _ ← Value.optional (Value.toList? Value.toString?) arguments
  let _ ← Value.optional (Value.toList? Value.toTexts?) environment
  let _ ← Value.optional checkInteraction interaction
  let _ ← Value.defaulted false Value.toBool? informs
  some ()

def Credentials.ofValue (value : Value) : Option Credentials := do
  let [username, password, token, tokenFile, certificate, certificateData, key, keyData, actingAs,
      actingGroups, provider, command] ←
    value.fields?
      ["username", "password", "token", "tokenFile", "client-certificate",
        "client-certificate-data", "client-key", "client-key-data", "as", "as-groups",
        "auth-provider", "exec"] 0 | none
  let _ ← text? certificate
  let _ ← text? key
  return {
    username := ← text? username
    password := ← text? password
    token := ← text? token
    tokenFile := ← text? tokenFile
    certificateData := ← text? certificateData
    keyData := ← text? keyData
    actingAs := ← text? actingAs
    actingGroups := ← Value.listOf Value.toString? actingGroups
    provider := ← Value.optional Provider.ofValue provider
    fromCommand := (← Value.optional checkCommand command).isSome }

def Context.ofValue (value : Value) : Option Context := do
  let [cluster, user, space, extensions] ←
    value.fields? ["cluster", "user", "namespace", "extensions"] 0 | none
  let _ ← checkExtensions extensions
  return {
    cluster := ← (← cluster).toString?
    user := ← text? user
    space := ← text? space }

/-- An entry whose value stands under a key. -/
def Named.ofValue (key : String) (read : Value → Option α) (value : Value) : Option (Named α) := do
  let [name, content] ← value.fields? ["name", key] 0 | none
  return {
    name := ← (← name).toString?
    value := ← Value.optional read content }

def Content.ofValue (value : Value) : Option Content := do
  let [preferences, clusters, users, contexts, currentContext, extensions, kind, version] ←
    value.fields?
      ["preferences", "clusters", "users", "contexts", "current-context", "extensions", "kind",
        "apiVersion"] 0 | none
  let _ ← Value.optional checkPreferences preferences
  let _ ← checkExtensions extensions
  return {
    clusters := ← Value.listOf (Named.ofValue "cluster" Cluster.ofValue) clusters
    users := ← Value.listOf (Named.ofValue "user" Credentials.ofValue) users
    contexts := ← Value.listOf (Named.ofValue "context" Context.ofValue) contexts
    currentContext := ← text? currentContext
    kind := ← text? kind
    version := ← text? version }

/-! ## Several documents -/

/-- Entries, and those others whose names are not among them. -/
def extend (entries others : List (Named α)) : List (Named α) :=
  entries ++ others.filter fun other => !entries.any fun entry => entry.name == other.name

/-- Whether two documents agree on what they say of themselves. -/
def agree (first second : Option String) : Bool :=
  first.isNone || second.isNone || first == second

/-- Two documents as one. Where both say something, the first one counts. -/
def Content.merge (first second : Content) : Option Content :=
  if agree first.kind second.kind && agree first.version second.version then
    some {
      clusters := extend first.clusters second.clusters
      users := extend first.users second.users
      contexts := extend first.contexts second.contexts
      currentContext := first.currentContext.or second.currentContext
      kind := first.kind.or second.kind
      version := first.version.or second.version }
  else none

/-- What the documents of a text say together. -/
def Content.ofText (text : List Char) : Option Content := do
  let contents ← (← Value.ofText text).mapM Content.ofValue
  match contents with
  | [] => some {}
  | first :: rest => rest.foldlM Content.merge first

end Kubeconfig
end Testbed
