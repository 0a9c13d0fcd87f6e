import SecretEnv.Main
import SecretEnv.Proofs.Address.Building
import SecretEnv.Proofs.Address.Parameters
import SecretEnv.Proofs.CacheFile.RoundTrip
import SecretEnv.Proofs.Listing.Order
import SecretEnv.Proofs.Update.Place
import SecretEnv.Proofs.Update.Quotes
import SecretEnv.Proofs.Shell.Exports
import SecretEnv.Proofs.Document.Decoding
import SecretEnv.Proofs.Document.Written
import SecretEnv.Proofs.Resolution.Merging
import SecretEnv.Proofs.Resolution.Order
import SecretEnv.Proofs.Resolution.Replay
import SecretEnv.Proofs.Json.Composition
import SecretEnv.Proofs.Secret.Expansion
import SecretEnv.Proofs.Secret.Selection
import SecretEnv.Proofs.Secret.Stripping
import SecretEnv.Proofs.Resolution.Whole
