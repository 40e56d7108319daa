import Testbed.Api.ResourceType
import Testbed.Image
import Testbed.Instance.Basic
import Testbed.Resource.Basic
import Testbed.Source

namespace Testbed

/-!
What the testbed asks of those it works with, one request at a time, and what they may reply. The
cluster is asked for resources and pods; a builder prepares images in contexts; a shaping service, a proxy, a
source of names, a cache of images and the files at hand are asked for the rest.
-/

/-- A request to the cluster. -/
inductive ClusterRequest where
  /-- To create a resource, or to bring it up to date. -/
  | apply (resource : Resource)
  /-- To remove a resource, perhaps within so many seconds. -/
  | delete (kind : ResourceKind) (name : String) (grace : Option UInt32)
  /-- Whether there is a resource. -/
  | present (kind : ResourceKind) (name : String)
  /-- The address of a service, if it has one. -/
  | serviceAddress (name : String)
  /-- Whether a replica set has a ready replica. -/
  | ready (name : String)
  /-- A pod of a replica set. -/
  | firstPod (name : String)
  /-- To run a command in a container. -/
  | run (pod container : String) (command : List String)
  /-- To open a tunnel from a local port to a port of a pod. -/
  | tunnel (pod : String) (localPort remotePort : UInt16)
  /-- Whether a type of resource is declared. -/
  | declared (type : CustomType)
  /-- To create a resource of a declared type. -/
  | createCustom (name : String) (type : CustomType) (object : Json)

/-- What a request to the cluster yields when it succeeds. -/
abbrev ClusterRequest.Value : ClusterRequest → Type
  | apply _ | delete _ _ _ | tunnel _ _ _ | createCustom _ _ _ => Unit
  | present _ _ | ready _ | declared _ => Bool
  | serviceAddress _ => Option String
  | firstPod _ | run _ _ _ => String

/-- A request to the builder of images, or to an image under preparation. -/
inductive ImageRequest where
  /-- To start from an image. -/
  | open (image : String)
  /-- To start from a git source, whose image gets the given name. -/
  | openSource (source : GitSource) (imageName : String)
  /-- A hash of what the image has become. -/
  | contentHash (context : ContextId)
  | push (context : ContextId) (image : String)
  | addFile (context : ContextId) (contents : List UInt8) (destination owner : String)
  | setUser (context : ContextId) (user : String)
  | run (context : ContextId) (command : List String)
  | fetchFile (context : ContextId) (path : String)

/-- What a request about an image yields when it succeeds. -/
abbrev ImageRequest.Value : ImageRequest → Type
  | .open _ | openSource _ _ => ContextId
  | contentHash _ | run _ _ => String
  | push _ _ | addFile _ _ _ _ | setUser _ _ => Unit
  | fetchFile _ _ => List UInt8

/-- A request to one of those that the testbed works with. -/
inductive Request where
  | cluster (request : ClusterRequest)
  | image (request : ImageRequest)
  /-- Whether anything of an image has been changed. -/
  | isChanged (context : ContextId)
  /-- The image that a context started from. -/
  | baseImage (context : ContextId)
  /-- To shape the traffic of a pod, through the shaping service at a target. -/
  | shape (target : String) (port : UInt16) (interface : String) (shaping : Shaping)
  /-- To stop shaping. -/
  | unshape (target : String) (port : UInt16) (kind : ShapingKind)
  /-- To make a port of a service reachable from outside. -/
  | expose (service host : String) (port : UInt16)
  /-- The address of an exposed port. -/
  | exposedAddress (host : String)
  /-- A cluster name for an instance of this name. -/
  | clusterName (name : String)
  /-- A tag that no image has. -/
  | uniqueTag
  /-- A local port that nobody uses. -/
  | localPort
  /-- The image that is recorded for a hash. -/
  | recordedImage (hash : String)
  /-- To record an image for a hash. -/
  | recordImage (hash image : String)
  /-- The contents of a file at hand. -/
  | sourceFile (path : String)
  /-- What is in a folder at hand. -/
  | sourceFolder (path : String)

/-- The replies to a request. -/
abbrev Request.Reply : Request → Type
  | cluster request => Except Error request.Value
  | image request => Except Failure request.Value
  | isChanged _ => Bool
  | baseImage _ => String
  | shape _ _ _ _ | unshape _ _ _ => Except ShapingFailure Unit
  | expose _ _ _ => Except Failure Unit
  | exposedAddress _ => Except Failure String
  | clusterName _ => Except Error String
  | uniqueTag => String
  | localPort => Except String UInt16
  | recordedImage _ => Option String
  | recordImage _ _ => String
  | sourceFile _ => Except String (List UInt8)
  | sourceFolder _ => Except String (List (String × SourceEntry))

end Testbed
