import GatewayConnector.Properties.Allocation
import GatewayConnector.Properties.Announcement
import GatewayConnector.Properties.Atomicity
import GatewayConnector.Properties.Delivery
import GatewayConnector.Properties.Departure
import GatewayConnector.Properties.EmptyMessages
import GatewayConnector.Properties.Farewells
import GatewayConnector.Properties.History
import GatewayConnector.Properties.Identity
import GatewayConnector.Properties.Isolation
import GatewayConnector.Properties.Links
import GatewayConnector.Properties.Losses
import GatewayConnector.Properties.Ownership
import GatewayConnector.Properties.Polling
import GatewayConnector.Properties.Publishes
import GatewayConnector.Properties.Reconnects
import GatewayConnector.Properties.Release
import GatewayConnector.Properties.Routed
import GatewayConnector.Properties.Sends
import GatewayConnector.Properties.TestRun
import GatewayConnector.Properties.TopicLifetime
import GatewayConnector.Properties.Truthful
