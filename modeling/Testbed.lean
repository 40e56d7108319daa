import Testbed.Json.Double
import Testbed.Json.Raw
import Testbed.Json.Printer
import Testbed.Text.Base64
import Testbed.ContentHash
import Testbed.Naming
import Testbed.Settings
import Testbed.Resource.Access
import Testbed.Resource.Service
import Testbed.Resource.Isolation
import Testbed.Api.ResourceType
import Testbed.Observability
import Testbed.Time.Retry
import Testbed.Image
import Testbed.BuildCache
import Testbed.Instance.Edit
import Testbed.Instance.Files
import Testbed.Compile
import Testbed.LogFilter
import Testbed.LogFilter.Directive
import Testbed.Kubeconfig
import Testbed.Source
import Testbed.Request
import Testbed.Program
import Testbed.Registry
import Testbed.Action.Basic
import Testbed.Action.Image
import Testbed.Action.Files
import Testbed.Action.Sidecar
import Testbed.Action.Deploy
import Testbed.Action.Clone
import Testbed.Action.Reach
import Testbed.Action.Shape
import Testbed.Rehearsal.Files
import Testbed.Rehearsal.Log
import Testbed.Rehearsal.Basic
import Testbed.Rehearsal.Stage
import Testbed.Api.Status
import Testbed.Time.Timestamp
import Testbed.Json.Shape
import Testbed.Api.Schema.Definition
import Testbed.Api.Schema.Pod
import Testbed.Api.Schema.Service
import Testbed.Api.Exchange
import Testbed.Api.Command
import Testbed.Api.Client
import Testbed.Instance.Document
import Testbed.Proofs.Course.Action
import Testbed.Proofs.Course.Address
import Testbed.Proofs.Registry
import Testbed.Proofs.Call
import Testbed.Proofs.Cluster
import Testbed.Proofs.Amendment
import Testbed.Proofs.Move
import Testbed.Proofs.Forest
import Testbed.Proofs.Lockstep
import Testbed.Proofs.Proceeds
import Testbed.Proofs.Conduct
import Testbed.Proofs.Trial
import Testbed.Proofs.Reachable
import Testbed.Proofs.Blueprint
import Testbed.Proofs.Deployment
import Testbed.Proofs.Supporting
import Testbed.Proofs.Shift
import Testbed.Proofs.Mirror
import Testbed.Proofs.ComputeUnit
import Testbed.Proofs.Support
import Testbed.Proofs.Revision
import Testbed.Proofs.Attendant
import Testbed.Proofs.Step
import Testbed.Proofs.Enlistment
import Testbed.Proofs.Passes
import Testbed.Proofs.Turn.Describe
import Testbed.Proofs.Turn.Reach
import Testbed.Proofs.Turn.Newcomer
import Testbed.Proofs.Turn.Inject
import Testbed.Proofs.Turn.Attach
import Testbed.Proofs.Turn.Shape
import Testbed.Proofs.Turn
import Testbed.Proofs.Shaper
import Testbed.Proofs.ShapingRecord
import Testbed.Proofs.Shaping
import Testbed.Proofs.Removal
import Testbed.Proofs.Halfway
import Testbed.Proofs.Attendance
import Testbed.Proofs.Wishes
import Testbed.Proofs.Refusal
import Testbed.Proofs.Cache
import Testbed.Proofs.Course.Commit
import Testbed.Proofs.Discretion
import Testbed.Proofs.Discretion.Reading
import Testbed.Proofs.Discretion.Writing
import Testbed.Proofs.Atomicity
import Testbed.Proofs.Publication
import Testbed.Proofs.Course.Replacement
import Testbed.Proofs.Log
import Testbed.Proofs.Site
import Testbed.Proofs.Agreement
import Testbed.Proofs.Heredity
import Testbed.Proofs.Completion
import Testbed.Proofs.Retry
import Testbed.Proofs.Renaming
import Testbed.Proofs.Cloning
import Testbed.Proofs.Counterpart
import Testbed.Proofs.Promptness
import Testbed.Proofs.Launch
import Testbed.Proofs.Attribution.Basic
import Testbed.Proofs.Attribution.Describe
import Testbed.Proofs.Attribution
import Testbed.Proofs.Description
import Testbed.Proofs.Mounts
import Testbed.Proofs.Supply.Basic
import Testbed.Proofs.Supply.Describe
import Testbed.Proofs.Supply
import Testbed.Proofs.Serial.Rearrangement
import Testbed.Proofs.Serial.Basic
import Testbed.Proofs.Serial.Pod
import Testbed.Proofs.Serial
import Testbed.Proofs.Footprint
import Testbed.Proofs.Residue
import Testbed.Proofs.Isolation.Policy
import Testbed.Proofs.Isolation.Host
import Testbed.Proofs.Isolation
import Testbed.Proofs.Timetable
import Testbed.Proofs.Waiting
import Testbed.Proofs.Api.Address
import Testbed.Proofs.Api.CustomResource
import Testbed.Proofs.Api.ObjectStore
import Testbed.Proofs.Backoff
import Testbed.Proofs.Text.Base64
import Testbed.Proofs.Contents
import Testbed.Proofs.Text.Shell
import Testbed.Proofs.Ownership
import Testbed.Proofs.Access
import Testbed.Proofs.Selection
import Testbed.Proofs.Listening
import Testbed.Proofs.Directory
import Testbed.Proofs.Folder.Tree
import Testbed.Proofs.Folder.Batch
import Testbed.Proofs.Folder
import Testbed.Proofs.Racing
import Testbed.Proofs.Tunnel
import Testbed.Proofs.Text.Numeral
import Testbed.Proofs.Json.Writing
import Testbed.Proofs.Settings
import Testbed.Proofs.Naming
import Testbed.Proofs.Labels
import Testbed.Proofs.Identity
import Testbed.Proofs.Framing
import Testbed.Proofs.Owner
