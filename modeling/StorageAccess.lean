import StorageAccess.Retry.OptionsDocument
import StorageAccess.Retry.Run
import StorageAccess.Signing.Signer
import StorageAccess.Time.Rfc3339
import StorageAccess.Proofs.Bytes.CanonicalKey
import StorageAccess.Proofs.Credentials.MaskedSecret
import StorageAccess.Proofs.Retry.CappedDelay
import StorageAccess.Proofs.Retry.Consultation
import StorageAccess.Proofs.Retry.DoublingDelay
import StorageAccess.Proofs.Retry.ReplicaChoice
import StorageAccess.Proofs.Retry.RunReference
import StorageAccess.Proofs.Retry.TimeBudget
import StorageAccess.Proofs.Sas.IssuedToken
import StorageAccess.Proofs.Sas.RereadToken
import StorageAccess.Proofs.Sas.Spelling
import StorageAccess.Proofs.Sas.StoredIdentifiers
import StorageAccess.Proofs.Sas.Unambiguous
import StorageAccess.Proofs.Signing.AttachedToken
import StorageAccess.Proofs.Signing.ExpiryRange
import StorageAccess.Proofs.Signing.FailedSigning
import StorageAccess.Proofs.Signing.GroupedQuery
import StorageAccess.Proofs.Signing.SecretFreeLog
import StorageAccess.Proofs.Signing.UnambiguousText
import StorageAccess.Proofs.Signing.UsableCredential
import StorageAccess.Proofs.Text.ShownEnds
import StorageAccess.Proofs.Time.SignedTime
