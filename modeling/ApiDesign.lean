import ApiDesign.Json.Design
import ApiDesign.Json.Text
import ApiDesign.Main
import ApiDesign.Proofs.OpenApi.OperationSecurity
import ApiDesign.Proofs.OpenApi.Outcome
import ApiDesign.Proofs.OpenApi.Components
import ApiDesign.Proofs.OpenApi.Locales
import ApiDesign.Proofs.OpenApi.OperationIds
import ApiDesign.Proofs.OpenApi.Credentials
import ApiDesign.Proofs.OpenApi.Flows
import ApiDesign.Proofs.Cli.Agreement
import ApiDesign.Proofs.DesignFile.Attributes
import ApiDesign.Proofs.Builder.Results
import ApiDesign.Proofs.DesignFile.Bodies
import ApiDesign.Proofs.DesignFile.Declarations
import ApiDesign.Proofs.DesignFile.Validity
import ApiDesign.Proofs.DesignFile.Acceptance
import ApiDesign.Proofs.Builder.Failures
import ApiDesign.Proofs.Builder.Recording
import ApiDesign.Proofs.Files.Path
import ApiDesign.Proofs.PathTemplate.Grammar
import ApiDesign.Proofs.Cli.FanOut
import ApiDesign.Proofs.Cli.Writing
import ApiDesign.Proofs.Builder.Reordering
import ApiDesign.Proofs.OpenApi.Reordering
import ApiDesign.Proofs.DesignFile.Verdicts
import ApiDesign.Proofs.DesignFile.Rejections
import ApiDesign.Proofs.OpenApi.Validation
import ApiDesign.Proofs.OpenApi.Classification
import ApiDesign.Proofs.OpenApi.Localization
import ApiDesign.Proofs.OpenApi.Pruning
import ApiDesign.Proofs.Cli.Events
import ApiDesign.Proofs.DesignFile.TypeExpression
import ApiDesign.Proofs.DesignFile.LocalizedValues
import ApiDesign.Proofs.OpenApi.WrittenForm
import ApiDesign.Proofs.Locale
import ApiDesign.Proofs.Security.Registry
import ApiDesign.Proofs.Json.Model
import ApiDesign.Proofs.DesignFile.Keys
import ApiDesign.Proofs.OpenApi.Accumulation
