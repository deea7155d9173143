import QueryPaths.Emit.Memory
import QueryPaths.Generate.BuildScript
import QueryPaths.Main
import QueryPaths.Proofs.Command.BuildScript
import QueryPaths.Proofs.Config.Overlay
import QueryPaths.Proofs.Emit.Admission
import QueryPaths.Proofs.Emit.Confinement
import QueryPaths.Proofs.Emit.Conflict
import QueryPaths.Proofs.Emit.Constants
import QueryPaths.Proofs.Emit.Crate
import QueryPaths.Proofs.Emit.DryRun
import QueryPaths.Proofs.Emit.Entries
import QueryPaths.Proofs.Emit.Footprint
import QueryPaths.Proofs.Emit.SharedConstant
import QueryPaths.Proofs.Generate.Account
import QueryPaths.Proofs.Generate.ClassOrder
import QueryPaths.Proofs.Generate.Intact
import QueryPaths.Proofs.Generate.Keywords
import QueryPaths.Proofs.Generate.Regeneration
import QueryPaths.Proofs.Generate.Summary
import QueryPaths.Proofs.Generate.Trace
import QueryPaths.Proofs.Model.FieldList
import QueryPaths.Proofs.Model.Pool
import QueryPaths.Proofs.Model.Spelling
import QueryPaths.Proofs.Path.Depth
import QueryPaths.Proofs.Path.Dump
import QueryPaths.Proofs.Path.Locality
import QueryPaths.Proofs.Path.Removal
import QueryPaths.Proofs.Path.SharedSet
import QueryPaths.Proofs.Path.Trail
