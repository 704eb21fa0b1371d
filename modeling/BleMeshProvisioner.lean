import BleMeshProvisioner.Model.State
import BleMeshProvisioner.Model.Nodes
import BleMeshProvisioner.Model.Composition
import BleMeshProvisioner.Model.Keys
import BleMeshProvisioner.Model.FastProv
import BleMeshProvisioner.Model.Run
import BleMeshProvisioner.Analysis.Tables
import BleMeshProvisioner.Analysis.KeyOps
import BleMeshProvisioner.Analysis.Cascade
import BleMeshProvisioner.Analysis.KeyInvariant
import BleMeshProvisioner.Analysis.KeyAdd
import BleMeshProvisioner.Analysis.Registry
import BleMeshProvisioner.Analysis.RegistryLock
import BleMeshProvisioner.Analysis.Partitions
import BleMeshProvisioner.Analysis.Durable
import BleMeshProvisioner.Analysis.KeyDurable
import BleMeshProvisioner.Analysis.KeyMap
import BleMeshProvisioner.Analysis.KeyAlloc
import BleMeshProvisioner.Analysis.Reset
import BleMeshProvisioner.Analysis.Unbind
import BleMeshProvisioner.Analysis.NodeNames
import BleMeshProvisioner.Analysis.Lookup
import BleMeshProvisioner.Analysis.ModelDurable
import BleMeshProvisioner.Analysis.Admissions
import BleMeshProvisioner.Analysis.Directory
import BleMeshProvisioner.Analysis.FastProvRound
import BleMeshProvisioner.Analysis.Interleaving
