import CatalogCrawl.Main
import CatalogCrawl.Proofs.Atomicity
import CatalogCrawl.Proofs.Provenance
import CatalogCrawl.Proofs.Schedules
import CatalogCrawl.Proofs.ShortestPaths
import CatalogCrawl.Store.Fault
import CatalogCrawl.Proofs.Errands
import CatalogCrawl.Proofs.SeedPages
import CatalogCrawl.Proofs.Backfilling
import CatalogCrawl.Proofs.Endpoints
import CatalogCrawl.Proofs.JsonRoundTrip
import CatalogCrawl.Proofs.Queries
import CatalogCrawl.Proofs.StatusCounts
import CatalogCrawl.Proofs.Payloads
import CatalogCrawl.Proofs.Paths
import CatalogCrawl.Proofs.Replacing
import CatalogCrawl.Proofs.Exporting
import CatalogCrawl.Proofs.Lookups
import CatalogCrawl.Proofs.TomlTables
import CatalogCrawl.Proofs.Listings
import CatalogCrawl.Proofs.Layering
