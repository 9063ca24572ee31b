import HolderInjection.Proofs.BatchText
import HolderInjection.Proofs.ContainerRequests
import HolderInjection.Proofs.QuotedNames
import HolderInjection.Proofs.SelfReference
import HolderInjection.Proofs.TypeKeys
import HolderInjection.Proofs.EnabledHolders
import HolderInjection.Proofs.TemplateDerivations
import HolderInjection.Proofs.TypeSpelling
import HolderInjection.Proofs.TemplateReading
import HolderInjection.Proofs.TemplateSlices
import HolderInjection.Proofs.TemplateSpacing
import HolderInjection.Proofs.TemplateCuts
import HolderInjection.Proofs.TemplateNames
import HolderInjection.Proofs.FieldSearch
import HolderInjection.Proofs.ConstructorArguments
import HolderInjection.Proofs.TopLevelCuts
import HolderInjection.Proofs.QualifiedNames
import HolderInjection.Proofs.PassLog
import HolderInjection.Proofs.GivenSettings
