import DocumentTypes.Proofs.ClassMembers
import DocumentTypes.Proofs.DateText
import DocumentTypes.Proofs.DeclaredDefaults
import DocumentTypes.Proofs.DeclaredTypes
import DocumentTypes.Proofs.ElementPaths
import DocumentTypes.Proofs.Enumerations
import DocumentTypes.Proofs.FacetView
import DocumentTypes.Proofs.FreshInstances
import DocumentTypes.Proofs.FullPatterns
import DocumentTypes.Proofs.Inheritance
import DocumentTypes.Proofs.ListDefaults
import DocumentTypes.Proofs.LoadFailure
import DocumentTypes.Proofs.LoadedChains
import DocumentTypes.Proofs.LoadedFields
import DocumentTypes.Proofs.MergedIndexes
import DocumentTypes.Proofs.Numerals
import DocumentTypes.Proofs.NumericIntervals
import DocumentTypes.Proofs.QualifiedReferences
import DocumentTypes.Proofs.QualifierOwners
import DocumentTypes.Proofs.Rebuilds
import DocumentTypes.Proofs.Reloading
import DocumentTypes.Proofs.ReorderedLoads
import DocumentTypes.Proofs.SchemaTypes
import DocumentTypes.Proofs.SoleSchemas
import DocumentTypes.Proofs.SupertypeOrder
import DocumentTypes.Proofs.Supertypes
import DocumentTypes.Proofs.Validation
import DocumentTypes.Proofs.WithdrawnSchemas
import DocumentTypes.Store.Conversion
import DocumentTypes.Store.Instance
import DocumentTypes.Version
