import Testbed.Kubeconfig.Trust
import Testbed.Web.Address
import Testbed.Web.Host

namespace Testbed

/-!
Choosing a cluster from a configuration file: the current context names a cluster, a user and a
namespace, and the cluster has an address. Loading tells apart a file that cannot be read, one that makes
no usable choice, and a choice that no connection can be made with.
-/

/-- The part of loading that failed. -/
inductive LoadFailure where
  | reading
  | choosing
  | connecting
  deriving DecidableEq, Repr

/-- The wording of a failed part. -/
def LoadFailure.text : LoadFailure → String
  | reading => "reading kubeconfig"
  | choosing => "loading kubeconfig"
  | connecting => "building client"

namespace Kubeconfig

/-- What a file's text says. A byte order mark at its beginning does not belong to it. -/
def read (text : String) : Option Content :=
  match text.toList with
  | first :: rest => Content.ofText (if first.toNat = 0xFEFF then rest else first :: rest)
  | [] => Content.ofText []

/-! ## Choosing -/

/-- What the current context chooses. -/
structure Choice where
  cluster : Cluster
  /-- Certificates to trust. -/
  trusted : List Text.PemBlock
  user : Credentials
  space : String

/-- Whether the address of a proxy is one. An empty one stands for none. -/
def Cluster.hasUsableProxy (cluster : Cluster) : Bool :=
  cluster.proxy.all fun proxy => proxy.isEmpty || Web.Address.isAddress proxy

/-- The choice of the current context. A user that is not there has no credentials. -/
def choose (content : Content) : Option Choice := do
  let context ← lookup (← content.currentContext) content.contexts
  let cluster ← lookup context.cluster content.clusters
  let server ← cluster.server
  let trusted ← cluster.trusted?
  if Web.Address.isAddress server && cluster.hasUsableProxy then
    some {
      cluster
      trusted
      user := (context.user.bind fun name => lookup name content.users).getD {}
      space := context.space.getD "default" }
  else none

/-! ## Connecting -/

/-- Whether a provider has a token at hand. -/
def Provider.isUsable (provider : Provider) : Bool :=
  (provider.name == "oidc" || provider.name == "gcp") &&
    provider.settings.any fun setting => setting.1 == "id-token"

/-- Whether credentials can be used as they are. A name with a password, or a token, goes before what would have
to be fetched, which files and commands cannot be here. -/
def Credentials.canAuthenticate (user : Credentials) : Bool :=
  user.provider.all Provider.isUsable &&
    (user.provider.isSome || (user.username.isSome && user.password.isSome) || user.token.isSome ||
      (user.tokenFile.isNone && !user.fromCommand))

/-- Whether a text can be sent in a header. -/
def isHeaderText (text : String) : Bool :=
  text.toList.all fun character =>
    character == '\t' || (32 ≤ character.toNat && character.toNat < 127)

/-- Whether a user can act as the one and the groups that are named. -/
def Credentials.canAct (user : Credentials) : Bool :=
  user.actingAs.all isHeaderText && user.actingGroups.all isHeaderText

/-- Whether base 64 text is given. -/
def givesBytes (text : Option String) : Bool :=
  text.any fun given => (Text.Base64.decode given.toList).isSome

/-- Whether a user comes with a certificate and its key, which are not supported. -/
def Credentials.hasCertificate (user : Credentials) : Bool :=
  givesBytes user.certificateData && givesBytes user.keyData

/-- Whether a connection can be made with a choice. No proxy is supported. -/
def Choice.isUsable (choice : Choice) : Bool :=
  choice.cluster.proxy.all String.isEmpty && choice.cluster.serverName.all Web.Host.isHost &&
    areCertificates choice.trusted && choice.user.canAuthenticate && choice.user.canAct &&
    !choice.user.hasCertificate

/-! ## Loading -/

/-- The namespace that a configuration file chooses, given its text unless it is missing. -/
def load (text : Option String) : Except LoadFailure String :=
  match text.bind read with
  | none => .error .reading
  | some content =>
    match choose content with
    | none => .error .choosing
    | some choice => if choice.isUsable then .ok choice.space else .error .connecting

end Kubeconfig
end Testbed
